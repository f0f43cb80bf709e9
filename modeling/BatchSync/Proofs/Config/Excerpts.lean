import BatchSync.Proofs.Config.Numbers
import BatchSync.Proofs.Yaml.Documents
import Mathlib.Data.List.Basic

/-!
# Documents with some of the settings

A document may keep any settings and any sections of a configuration, in any order, and may hold keys
without a meaning (`Json.Excerpt`). What is read from it has the values of the configuration where the
document keeps them, and the defaults of the sections everywhere else (`CoreConfig.keptIn`).

1. `setting_toNode` reads one setting of a section, whatever stands around it.
2. Each section is read by one lemma, from the settings and the sections in it.
3. `CoreConfig.ofText_excerpt` puts this together with the reading of the text. The text of an excerpt is
   read as YAML with the same meaning unless YAML misses a key or a character of it (`Json.FitsYaml`).
-/

namespace BatchSync

open Json Yaml

/-! ## Excerpts -/

namespace Json

/-- What a member of an object says, or a default if it is left out. -/
def pick {α : Type} (v : Json) (key : String) (default : α) (value : Json → α) : α :=
  (v.field? key).elim default value

/-- A part of a document: some members of every object, in any order, among others that the object does
not have. -/
inductive Excerpt : Json → Json → Prop
  | whole {v : Json} (leaf : ∀ members, v ≠ .object members) : Excerpt v v
  | part {members kept : List (String × Json)}
      (once : ((kept.map Prod.fst).filter fun key => (members.lookup key).isSome).Nodup)
      (each : ∀ m ∈ kept, ∀ v, members.lookup m.1 = some v → Excerpt v m.2) :
      Excerpt (.object members) (.object kept)

/-- Whether a text of a value is read as YAML with the meaning it has in JSON. -/
def ReadsAsYaml (v : Json) : Prop := Document.ofText? v.render = some (some v.toDocument)

variable {v w : Json} {members : List (String × Json)}

theorem Excerpt.eq_of_leaf (h : Excerpt v w) (leaf : ∀ members, v ≠ .object members) : w = v := by
  cases h with
  | whole => rfl
  | part => exact absurd rfl (leaf _)

theorem Excerpt.exists_object (h : Excerpt (.object members) w) : ∃ kept, w = .object kept := by
  cases h with
  | whole leaf => exact absurd rfl (leaf members)
  | part => exact ⟨_, rfl⟩

theorem option_ne_object {α : Type} {f : α → Json} {a : Option α}
    (leaf : ∀ x members, f x ≠ .object members) (members : List (String × Json)) :
    Json.option f a ≠ .object members := by
  cases a with
  | none => exact nofun
  | some x => exact leaf x members

end Json

/-! ## One setting of a section -/

section Settings

variable {α : Type} (d : Document) {read? : Node → Option α} {value : Json → α}
  {full : Json} {members kept : List (String × Json)}

/-- The member of a key that may be given once. -/
theorem filter_eq_lookup {key : String} {p : String → Bool} (known : p key = true)
    (once : ((kept.map Prod.fst).filter p).Nodup) :
    kept.filter (·.1 == key) = (kept.lookup key).toList.map (key, ·) := by
  induction kept with
  | nil => rfl
  | cons m kept ih =>
    obtain ⟨k, w⟩ := m
    by_cases same : k = key
    · subst same
      rw [List.map_cons, List.filter_cons_of_pos known, List.nodup_cons] at once
      have others : kept.filter (·.1 == k) = [] := by
        rw [List.filter_eq_nil_iff]
        intro n mem same
        refine once.1 (List.mem_filter.mpr ⟨?_, known⟩)
        exact beq_iff_eq.mp same ▸ List.mem_map_of_mem mem
      have here : ((k, w) :: kept).filter (·.1 == k) = (k, w) :: kept.filter (·.1 == k) :=
        List.filter_cons_of_pos (beq_self_eq_true k)
      rw [here, others, List.lookup_cons_self]
      rfl
    · have other : (k == key) = false := beq_eq_false_iff_ne.mpr same
      have other' : (key == k) = false := beq_eq_false_iff_ne.mpr (Ne.symm same)
      have rest : ((kept.map Prod.fst).filter p).Nodup :=
        once.sublist ((List.sublist_cons_self _ _).filter p)
      rw [List.filter_cons_of_neg (by simp [other]), ih rest, List.lookup_cons, other']

theorem section?_toNode :
    d.section? (Json.object members).toNode = some (members.map fun m => (m.1, m.2.toNode)) := by
  rw [toNode, Assembly.toEntries_eq]
  show (members.map Assembly.entryOf).mapM _ = _
  rw [List.mapM_map]
  exact List.mapM_pure

/-- A setting that is kept is read, and one that is left out has its default. -/
theorem setting_toNode (h : Excerpt (.object members) (.object kept)) (key : String)
    (known : members.lookup key = some full)
    (reads : ∀ w, Excerpt full w → read? w.toNode = some (value w)) (default : α) :
    setting (kept.map fun m => (m.1, m.2.toNode)) key default read? =
      some ((Json.object kept).pick key default value) := by
  cases h with
  | whole leaf => exact absurd rfl (leaf members)
  | part once each =>
    -- Only keys with a meaning stand once, so `List.Nodup` of all keys is not there to use.
    have found : kept.filter (·.1 == key) = (kept.lookup key).toList.map (key, ·) :=
      filter_eq_lookup (by rw [known]; rfl) once
    have entries : (kept.map fun m => (m.1, m.2.toNode)).filter (·.1 == key) =
        (kept.lookup key).toList.map fun w => (key, w.toNode) := by
      rw [List.filter_map]
      exact (congrArg (List.map _) found).trans List.map_map
    show setting _ key default read? = some ((kept.lookup key).elim default value)
    rw [setting, entries]
    cases there : kept.lookup key with
    | none => rfl
    | some w =>
      rw [there] at found
      have mem : (key, w) ∈ kept.filter (·.1 == key) := found ▸ List.mem_singleton_self (key, w)
      exact reads w (each (key, w) (List.mem_filter.mp mem).1 full known)

theorem word?_of_excerpt {limit n : Nat} (lt : n < limit) :
    ∀ w, Excerpt (.nat n) w → d.word? limit w.toNode = some n := by
  intro w h
  rw [h.eq_of_leaf nofun]
  exact d.word?_toNode lt

theorem optional?_word_of_excerpt {limit : Nat} {a : Option Nat} (lt : ∀ n ∈ a, n < limit) :
    ∀ w, Excerpt (.option .nat a) w → d.optional? (d.word? limit) w.toNode = some a := by
  intro w h
  rw [h.eq_of_leaf (option_ne_object fun _ => nofun)]
  cases a with
  | none => rfl
  | some n => exact (d.optional?_int n).trans (congrArg (Option.map some) (d.word?_toNode (lt n rfl)))

theorem optional?_null_of_excerpt (read? : Node → Option α) :
    ∀ w, Excerpt .null w → d.optional? read? w.toNode = some none := by
  intro w h
  rw [h.eq_of_leaf nofun]
  exact d.optional?_null

/-- Whether a number fits a signed word of 64 bits. -/
def IsSignedWord (n : Int) : Prop := -(signedWordLimit : Int) ≤ n ∧ n < signedWordLimit

instance (n : Int) : Decidable (IsSignedWord n) := inferInstanceAs (Decidable (_ ∧ _))

theorem optional?_signed_of_excerpt {a : Option Int} (fits : ∀ n ∈ a, IsSignedWord n) :
    ∀ w, Excerpt (.option .int a) w → d.optional? d.signed? w.toNode = some a := by
  intro w h
  rw [h.eq_of_leaf (option_ne_object fun _ => nofun)]
  cases a with
  | none => rfl
  | some n =>
    obtain ⟨least, lt⟩ := fits n rfl
    exact (d.optional?_int n).trans (congrArg (Option.map some) (d.signed?_toNode least lt))

end Settings

/-! ## Sections -/

/-- Ceilings that fit their words. -/
structure SpeedConfig.IsInRange (c : SpeedConfig) : Prop where
  byte : ∀ n ∈ c.byte, IsSignedWord n
  record : ∀ n ∈ c.record, IsSignedWord n

/-- Settings of a channel that fit their words. -/
structure ChannelConfig.IsInRange (c : ChannelConfig) : Prop where
  capacity : c.capacity < wordLimit
  byteCapacity : c.byteCapacity < wordLimit
  speed : c.speed.IsInRange
  flowControlInterval : c.flowControlInterval < wordLimit

/-- Settings of a group that fit their words. -/
structure TaskGroupConfig.IsInRange (c : TaskGroupConfig) : Prop where
  channel : c.channel < wordLimit
  reportInterval : c.reportInterval < wordLimit
  sleepInterval : c.sleepInterval < wordLimit

/-- Settings of what happens to failed tasks that fit their words. -/
structure FailoverConfig.IsInRange (c : FailoverConfig) : Prop where
  maxRetryTimes : c.maxRetryTimes < halfWordLimit
  retryInterval : c.retryInterval < wordLimit
  maxWait : c.maxWait < wordLimit

/-- Settings that fit their words. -/
structure CoreConfig.IsInRange (c : CoreConfig) : Prop where
  channel : c.transport.channel.IsInRange
  bufferSize : c.transport.exchanger.bufferSize < wordLimit
  taskGroup : c.container.taskGroup.IsInRange
  failover : c.container.task.failover.IsInRange
  hangTimeout : c.container.task.hangTimeout < wordLimit
  maxDirtyNumber : c.statistics.maxDirtyNumber < wordLimit
  errorLimit : ∀ limit ∈ c.job.errorLimit, ∀ n ∈ limit.record, n < wordLimit

section Sections

variable (d : Document) {v : Json}

/-- The ceilings that a document keeps. -/
def SpeedConfig.keptIn (c : SpeedConfig) (v : Json) : SpeedConfig :=
  let base : SpeedConfig := {}
  { byte := v.pick "byte" base.byte fun _ => c.byte
    record := v.pick "record" base.record fun _ => c.record }

theorem SpeedConfig.ofNode?_of_excerpt {c : SpeedConfig} (inRange : c.IsInRange)
    (h : Excerpt c.toJson v) : SpeedConfig.ofNode? d v.toNode = some (c.keptIn v) := by
  obtain ⟨kept, rfl⟩ := h.exists_object
  have byte := setting_toNode h "byte" rfl (optional?_signed_of_excerpt d inRange.byte)
  have record := setting_toNode h "record" rfl (optional?_signed_of_excerpt d inRange.record)
  simp only [SpeedConfig.ofNode?, section?_toNode, byte, record, Option.bind_eq_bind,
    Option.bind_some]
  rfl

/-- The settings of a channel that a document keeps. -/
def ChannelConfig.keptIn (c : ChannelConfig) (v : Json) : ChannelConfig :=
  let base : ChannelConfig := {}
  { capacity := v.pick "capacity" base.capacity fun _ => c.capacity
    byteCapacity := v.pick "byteCapacity" base.byteCapacity fun _ => c.byteCapacity
    speed := v.pick "speed" base.speed c.speed.keptIn
    flowControlInterval := v.pick "flowControlInterval" base.flowControlInterval fun _ =>
      c.flowControlInterval }

theorem ChannelConfig.ofNode?_of_excerpt {c : ChannelConfig} (inRange : c.IsInRange)
    (h : Excerpt c.toJson v) : ChannelConfig.ofNode? d v.toNode = some (c.keptIn v) := by
  obtain ⟨kept, rfl⟩ := h.exists_object
  have capacity := setting_toNode h "capacity" rfl (word?_of_excerpt d inRange.capacity)
  have byteCapacity := setting_toNode h "byteCapacity" rfl (word?_of_excerpt d inRange.byteCapacity)
  have speed := setting_toNode h "speed" rfl fun _ => SpeedConfig.ofNode?_of_excerpt d inRange.speed
  have interval := setting_toNode h "flowControlInterval" rfl
    (word?_of_excerpt d inRange.flowControlInterval)
  simp only [ChannelConfig.ofNode?, section?_toNode, capacity, byteCapacity, speed, interval,
    Option.bind_eq_bind, Option.bind_some]
  rfl

/-- How a document says that exchangers work. -/
def ExchangerConfig.toJson (c : ExchangerConfig) : Json := .object [("bufferSize", .nat c.bufferSize)]

/-- The settings of the exchangers that a document keeps. -/
def ExchangerConfig.keptIn (c : ExchangerConfig) (v : Json) : ExchangerConfig :=
  let base : ExchangerConfig := {}
  { bufferSize := v.pick "bufferSize" base.bufferSize fun _ => c.bufferSize }

theorem ExchangerConfig.ofNode?_of_excerpt {c : ExchangerConfig} (inRange : c.bufferSize < wordLimit)
    (h : Excerpt c.toJson v) : ExchangerConfig.ofNode? d v.toNode = some (c.keptIn v) := by
  obtain ⟨kept, rfl⟩ := h.exists_object
  have bufferSize := setting_toNode h "bufferSize" rfl (word?_of_excerpt d inRange)
  simp only [ExchangerConfig.ofNode?, section?_toNode, bufferSize, Option.bind_eq_bind,
    Option.bind_some]
  rfl

/-- How records are moved, in a document. -/
def TransportConfig.toJson (c : TransportConfig) : Json :=
  .object [("channel", c.channel.toJson), ("exchanger", c.exchanger.toJson)]

/-- What a document keeps of how records are moved. -/
def TransportConfig.keptIn (c : TransportConfig) (v : Json) : TransportConfig where
  channel := v.pick "channel" {} c.channel.keptIn
  exchanger := v.pick "exchanger" {} c.exchanger.keptIn

theorem TransportConfig.ofNode?_of_excerpt {c : TransportConfig} (channel : c.channel.IsInRange)
    (bufferSize : c.exchanger.bufferSize < wordLimit) (h : Excerpt c.toJson v) :
    TransportConfig.ofNode? d v.toNode = some (c.keptIn v) := by
  obtain ⟨kept, rfl⟩ := h.exists_object
  have channel := setting_toNode h "channel" rfl fun _ => ChannelConfig.ofNode?_of_excerpt d channel
  have exchanger := setting_toNode h "exchanger" rfl fun _ =>
    ExchangerConfig.ofNode?_of_excerpt d bufferSize
  simp only [TransportConfig.ofNode?, section?_toNode, channel, exchanger, Option.bind_eq_bind,
    Option.bind_some]
  rfl

/-- What a document keeps of how a group is run. -/
def TaskGroupConfig.keptIn (c : TaskGroupConfig) (v : Json) : TaskGroupConfig :=
  let base : TaskGroupConfig := {}
  { channel := v.pick "channel" base.channel fun _ => c.channel
    reportInterval := v.pick "reportInterval" base.reportInterval fun _ => c.reportInterval
    sleepInterval := v.pick "sleepInterval" base.sleepInterval fun _ => c.sleepInterval }

theorem TaskGroupConfig.ofNode?_of_excerpt {c : TaskGroupConfig} (inRange : c.IsInRange)
    (h : Excerpt c.toJson v) : TaskGroupConfig.ofNode? d v.toNode = some (c.keptIn v) := by
  obtain ⟨kept, rfl⟩ := h.exists_object
  have channel := setting_toNode h "channel" rfl (word?_of_excerpt d inRange.channel)
  have report := setting_toNode h "reportInterval" rfl (word?_of_excerpt d inRange.reportInterval)
  have sleep := setting_toNode h "sleepInterval" rfl (word?_of_excerpt d inRange.sleepInterval)
  simp only [TaskGroupConfig.ofNode?, section?_toNode, channel, report, sleep, Option.bind_eq_bind,
    Option.bind_some]
  rfl

/-- What a document keeps of what happens to tasks that fail. -/
def FailoverConfig.keptIn (c : FailoverConfig) (v : Json) : FailoverConfig :=
  let base : FailoverConfig := {}
  { maxRetryTimes := v.pick "maxRetryTimes" base.maxRetryTimes fun _ => c.maxRetryTimes
    retryInterval := v.pick "retryIntervalInMsec" base.retryInterval fun _ => c.retryInterval
    maxWait := v.pick "maxWaitInMsec" base.maxWait fun _ => c.maxWait }

theorem FailoverConfig.ofNode?_of_excerpt {c : FailoverConfig} (inRange : c.IsInRange)
    (h : Excerpt c.toJson v) : FailoverConfig.ofNode? d v.toNode = some (c.keptIn v) := by
  obtain ⟨kept, rfl⟩ := h.exists_object
  have times := setting_toNode h "maxRetryTimes" rfl (word?_of_excerpt d inRange.maxRetryTimes)
  have interval := setting_toNode h "retryIntervalInMsec" rfl (word?_of_excerpt d inRange.retryInterval)
  have wait := setting_toNode h "maxWaitInMsec" rfl (word?_of_excerpt d inRange.maxWait)
  simp only [FailoverConfig.ofNode?, section?_toNode, times, interval, wait, Option.bind_eq_bind,
    Option.bind_some]
  rfl

/-- What a document keeps of how a task is run. -/
def TaskConfig.keptIn (c : TaskConfig) (v : Json) : TaskConfig :=
  let base : TaskConfig := {}
  { failover := v.pick "failOver" base.failover c.failover.keptIn
    hangTimeout := v.pick "hangTimeoutMs" base.hangTimeout fun _ => c.hangTimeout }

theorem TaskConfig.ofNode?_of_excerpt {c : TaskConfig} (failover : c.failover.IsInRange)
    (hangTimeout : c.hangTimeout < wordLimit) (h : Excerpt c.toJson v) :
    TaskConfig.ofNode? d v.toNode = some (c.keptIn v) := by
  obtain ⟨kept, rfl⟩ := h.exists_object
  have failover := setting_toNode h "failOver" rfl fun _ =>
    FailoverConfig.ofNode?_of_excerpt d failover
  have hangTimeout := setting_toNode h "hangTimeoutMs" rfl (word?_of_excerpt d hangTimeout)
  simp only [TaskConfig.ofNode?, section?_toNode, failover, hangTimeout, Option.bind_eq_bind,
    Option.bind_some]
  rfl

/-- How tasks are run, in a document. -/
def ContainerConfig.toJson (c : ContainerConfig) : Json :=
  .object [("taskGroup", c.taskGroup.toJson), ("task", c.task.toJson)]

/-- What a document keeps of how tasks are run. -/
def ContainerConfig.keptIn (c : ContainerConfig) (v : Json) : ContainerConfig where
  taskGroup := v.pick "taskGroup" {} c.taskGroup.keptIn
  task := v.pick "task" {} c.task.keptIn

theorem ContainerConfig.ofNode?_of_excerpt {c : ContainerConfig} (taskGroup : c.taskGroup.IsInRange)
    (failover : c.task.failover.IsInRange) (hangTimeout : c.task.hangTimeout < wordLimit)
    (h : Excerpt c.toJson v) : ContainerConfig.ofNode? d v.toNode = some (c.keptIn v) := by
  obtain ⟨kept, rfl⟩ := h.exists_object
  have taskGroup := setting_toNode h "taskGroup" rfl fun _ =>
    TaskGroupConfig.ofNode?_of_excerpt d taskGroup
  have task := setting_toNode h "task" rfl fun _ =>
    TaskConfig.ofNode?_of_excerpt d failover hangTimeout
  simp only [ContainerConfig.ofNode?, section?_toNode, taskGroup, task, Option.bind_eq_bind,
    Option.bind_some]
  rfl

/-- What is kept for reports, in a document. -/
def StatisticsConfig.toJson (c : StatisticsConfig) : Json :=
  .object [("maxDirtyNumber", .nat c.maxDirtyNumber)]

/-- What a document keeps of what is kept for reports. -/
def StatisticsConfig.keptIn (c : StatisticsConfig) (v : Json) : StatisticsConfig :=
  let base : StatisticsConfig := {}
  { maxDirtyNumber := v.pick "maxDirtyNumber" base.maxDirtyNumber fun _ => c.maxDirtyNumber }

theorem StatisticsConfig.ofNode?_of_excerpt {c : StatisticsConfig}
    (inRange : c.maxDirtyNumber < wordLimit) (h : Excerpt c.toJson v) :
    StatisticsConfig.ofNode? d v.toNode = some (c.keptIn v) := by
  obtain ⟨kept, rfl⟩ := h.exists_object
  have number := setting_toNode h "maxDirtyNumber" rfl (word?_of_excerpt d inRange)
  simp only [StatisticsConfig.ofNode?, section?_toNode, number, Option.bind_eq_bind, Option.bind_some]
  rfl

/-- A limit on dirty records, in a document. -/
def ErrorLimitConfig.toJson (c : ErrorLimitConfig) : Json :=
  .object [("record", .option .nat c.record), ("percentage", .option .finite c.percentage)]

/-- The limit that a document keeps. -/
def ErrorLimitConfig.keptIn (c : ErrorLimitConfig) (v : Json) : ErrorLimitConfig :=
  let base : ErrorLimitConfig := {}
  { record := v.pick "record" base.record fun _ => c.record
    percentage := v.pick "percentage" base.percentage fun _ => c.percentage }

/-- A limit without a percentage, which is written as null. -/
theorem ErrorLimitConfig.ofNode?_of_excerpt {c : ErrorLimitConfig}
    (inRange : ∀ n ∈ c.record, n < wordLimit) (noPercentage : c.percentage = none)
    (h : Excerpt c.toJson v) : ErrorLimitConfig.ofNode? d v.toNode = some (c.keptIn v) := by
  obtain ⟨kept, rfl⟩ := h.exists_object
  obtain ⟨record, _⟩ := c
  subst noPercentage
  have record := setting_toNode h "record" rfl (optional?_word_of_excerpt d inRange)
  have percentage := setting_toNode h "percentage" rfl (optional?_null_of_excerpt d d.real?)
  simp only [ErrorLimitConfig.ofNode?, section?_toNode, record, percentage, Option.bind_eq_bind,
    Option.bind_some]
  rfl

/-- What concerns the whole job, in a document. -/
def JobConfig.toJson (c : JobConfig) : Json :=
  .object [("errorLimit", .option ErrorLimitConfig.toJson c.errorLimit)]

/-- What a document keeps of what concerns the whole job. -/
def JobConfig.keptIn (c : JobConfig) (v : Json) : JobConfig where
  errorLimit := v.pick "errorLimit" none fun w => c.errorLimit.map (·.keptIn w)

theorem JobConfig.ofNode?_of_excerpt {c : JobConfig}
    (inRange : ∀ limit ∈ c.errorLimit, ∀ n ∈ limit.record, n < wordLimit)
    (noPercentage : ∀ limit ∈ c.errorLimit, limit.percentage = none)
    (h : Excerpt c.toJson v) : JobConfig.ofNode? d v.toNode = some (c.keptIn v) := by
  obtain ⟨kept, rfl⟩ := h.exists_object
  have reads : ∀ w, Excerpt (.option ErrorLimitConfig.toJson c.errorLimit) w →
      d.optional? (ErrorLimitConfig.ofNode? d) w.toNode = some (c.errorLimit.map (·.keptIn w)) := by
    intro w hw
    -- No limit is written as null, and a limit as a section of its own, which is never null.
    cases limit_eq : c.errorLimit with
    | none =>
      rw [limit_eq] at hw
      exact optional?_null_of_excerpt d _ w hw
    | some limit =>
      rw [limit_eq] at hw
      have read := ErrorLimitConfig.ofNode?_of_excerpt d (inRange limit limit_eq)
        (noPercentage limit limit_eq) hw
      obtain ⟨members, rfl⟩ := hw.exists_object
      rw [d.optional?_object, read]
      rfl
  have limit := setting_toNode h "errorLimit" rfl reads
  simp only [JobConfig.ofNode?, section?_toNode, limit, Option.bind_eq_bind, Option.bind_some]
  rfl

end Sections

/-! ## All settings -/

namespace CoreConfig

/-- What a document keeps of all settings. -/
def keptIn (c : CoreConfig) (v : Json) : CoreConfig where
  transport := v.pick "transport" {} c.transport.keptIn
  container := v.pick "container" {} c.container.keptIn
  statistics := v.pick "statistics" {} c.statistics.keptIn
  job := v.pick "job" {} c.job.keptIn

variable {c : CoreConfig} {v : Json}

theorem toJson_eq (c : CoreConfig) :
    c.toJson = .object [("transport", c.transport.toJson), ("container", c.container.toJson),
      ("statistics", c.statistics.toJson), ("job", c.job.toJson)] := rfl

theorem ofNode?_of_excerpt (d : Document) (inRange : c.IsInRange)
    (noPercentage : ∀ limit ∈ c.job.errorLimit, limit.percentage = none) (h : Excerpt c.toJson v) :
    ofNode? d v.toNode = some (c.keptIn v) := by
  rw [toJson_eq] at h
  obtain ⟨kept, rfl⟩ := h.exists_object
  have transport := setting_toNode h "transport" rfl fun _ =>
    TransportConfig.ofNode?_of_excerpt d inRange.channel inRange.bufferSize
  have container := setting_toNode h "container" rfl fun _ =>
    ContainerConfig.ofNode?_of_excerpt d inRange.taskGroup inRange.failover inRange.hangTimeout
  have statistics := setting_toNode h "statistics" rfl fun _ =>
    StatisticsConfig.ofNode?_of_excerpt d inRange.maxDirtyNumber
  have job := setting_toNode h "job" rfl fun _ =>
    JobConfig.ofNode?_of_excerpt d inRange.errorLimit noPercentage
  simp only [ofNode?, section?_toNode, transport, container, statistics, job, Option.bind_eq_bind,
    Option.bind_some]
  rfl

theorem ofText_of_excerpt (inRange : c.IsInRange)
    (noPercentage : ∀ limit ∈ c.job.errorLimit, limit.percentage = none) (h : Excerpt c.toJson v)
    (reads : v.ReadsAsYaml) : ofText v.render = .ok (c.keptIn v) := by
  have read : (Document.ofText? v.render).bind ofDocument? = some (c.keptIn v) := by
    rw [reads]
    exact ofNode?_of_excerpt v.toDocument inRange noPercentage h
  rw [ofText, read]

theorem keptIn_toJson (c : CoreConfig) : c.keptIn c.toJson = c := by
  obtain ⟨transport, container, statistics, ⟨limit⟩⟩ := c
  cases limit with
  | none => rfl
  | some limit => rfl

end CoreConfig

/-! ## Documents as they are written -/

namespace Json

/-- A value that may be written as a document of settings: no key is given twice, and YAML reads it. -/
def IsWritten (v : Json) : Prop := Excerpt v v ∧ v.FitsYaml

theorem isWritten_null : IsWritten .null := ⟨.whole nofun, .null⟩

theorem isWritten_int (n : Int) : IsWritten (.int n) := ⟨.whole nofun, .int n⟩

theorem isWritten_finite (x : Binary64) : IsWritten (.finite x) := by
  unfold finite
  split
  · exact ⟨.whole nofun, .float x⟩
  · exact isWritten_null

theorem isWritten_option {α : Type} {f : α → Json} {a : Option α} (each : ∀ x, IsWritten (f x)) :
    IsWritten (.option f a) := by
  cases a with
  | none => exact isWritten_null
  | some x => exact each x

theorem isWritten_object {members : List (String × Json)} (keys : List String)
    (keys_eq : members.map Prod.fst = keys) (good : keys.Nodup ∧ ∀ key ∈ keys, IsYamlKey key)
    (each : (members.map Prod.snd).Forall IsWritten) : IsWritten (.object members) := by
  subst keys_eq
  have each := List.forall_mem_map.mp (List.forall_iff_forall_mem.mp each)
  refine ⟨.part (good.1.filter _) fun m mem v found => ?_,
    .object (List.forall_mem_map.mp good.2) fun m mem => (each m mem).2⟩
  have alone : members.filter (·.1 == m.1) = (members.lookup m.1).toList.map (m.1, ·) :=
    filter_eq_lookup rfl (good.1.filter fun _ => true)
  have here : m ∈ members.filter (·.1 == m.1) := List.mem_filter.mpr ⟨mem, beq_self_eq_true m.1⟩
  rw [alone, found] at here
  have same : m = (m.1, v) := List.mem_singleton.mp here
  have value : m.2 = v := congrArg Prod.snd same
  exact value ▸ (each m mem).1

theorem isWritten_channel (c : ChannelConfig) : IsWritten c.toJson := by
  have speed : IsWritten c.speed.toJson := isWritten_object ["byte", "record"] rfl (by decide)
    ⟨isWritten_option isWritten_int, isWritten_option isWritten_int⟩
  exact isWritten_object ["capacity", "byteCapacity", "speed", "flowControlInterval"] rfl (by decide)
    ⟨isWritten_int _, isWritten_int _, speed, isWritten_int _⟩

theorem isWritten_transport (c : TransportConfig) : IsWritten c.toJson := by
  have exchanger : IsWritten c.exchanger.toJson := isWritten_object ["bufferSize"] rfl (by decide)
    (isWritten_int _)
  exact isWritten_object ["channel", "exchanger"] rfl (by decide) ⟨isWritten_channel _, exchanger⟩

theorem isWritten_container (c : ContainerConfig) : IsWritten c.toJson := by
  have taskGroup : IsWritten c.taskGroup.toJson :=
    isWritten_object ["channel", "reportInterval", "sleepInterval"] rfl (by decide)
      ⟨isWritten_int _, isWritten_int _, isWritten_int _⟩
  have failover : IsWritten c.task.failover.toJson :=
    isWritten_object ["maxRetryTimes", "retryIntervalInMsec", "maxWaitInMsec"] rfl (by decide)
      ⟨isWritten_int _, isWritten_int _, isWritten_int _⟩
  have task : IsWritten c.task.toJson :=
    isWritten_object ["failOver", "hangTimeoutMs"] rfl (by decide) ⟨failover, isWritten_int _⟩
  exact isWritten_object ["taskGroup", "task"] rfl (by decide) ⟨taskGroup, task⟩

theorem isWritten_errorLimit (c : ErrorLimitConfig) : IsWritten c.toJson :=
  isWritten_object ["record", "percentage"] rfl (by decide)
    ⟨isWritten_option fun n => isWritten_int n, isWritten_option isWritten_finite⟩

theorem isWritten_job (c : JobConfig) : IsWritten c.toJson :=
  isWritten_object ["errorLimit"] rfl (by decide) (isWritten_option isWritten_errorLimit)

/-- What is written of all settings, also of a percentage. -/
theorem isWritten_core (c : CoreConfig) : IsWritten c.toJson := by
  have statistics : IsWritten c.statistics.toJson := isWritten_object ["maxDirtyNumber"] rfl (by decide)
    (isWritten_int _)
  exact isWritten_object ["transport", "container", "statistics", "job"] rfl (by decide)
    ⟨isWritten_transport _, isWritten_container _, statistics, isWritten_job _⟩

end Json

/-! ## Reading documents -/

/-- An excerpt of a configuration gives the settings that it keeps, with the defaults of the sections
everywhere else, if its text is read as YAML with the meaning it has in JSON. That it is follows if every
character and every key of it fits YAML. What is written of all settings gives them back, and an empty
document gives the defaults. -/
theorem CoreConfig.ofText_excerpt (c : CoreConfig) (inRange : c.IsInRange)
    (noPercentage : ∀ limit ∈ c.job.errorLimit, limit.percentage = none) :
    (∀ v, Excerpt c.toJson v → v.ReadsAsYaml → ofText v.render = .ok (c.keptIn v)) ∧
    (∀ v, Excerpt c.toJson v → v.FitsYaml → v.ReadsAsYaml) ∧
    ofText c.toJson.render = .ok c ∧
    ofText (Json.object []).render = .ok {} := by
  have reads : ∀ v, Excerpt c.toJson v → v.FitsYaml → v.ReadsAsYaml := by
    intro v h fits
    obtain ⟨members, rfl⟩ := h.exists_object
    exact ofText?_render fits
  have empty : Excerpt c.toJson (.object []) := .part List.nodup_nil nofun
  obtain ⟨whole, fits⟩ := isWritten_core c
  refine ⟨fun v h => ofText_of_excerpt inRange noPercentage h, reads, ?_, ?_⟩
  · rw [ofText_of_excerpt inRange noPercentage whole (reads _ whole fits), keptIn_toJson]
  · exact ofText_of_excerpt inRange noPercentage empty (reads _ empty (.object nofun nofun))

/-- Ceilings at the ends of their words, and a limit, are read from a document that turns their order
around and holds other keys. It leaves the exchangers out, and they have their default. -/
theorem CoreConfig.ofText_excerpt_ceilings :
    let channel : ChannelConfig :=
      { capacity := 18446744073709551615, speed := { byte := some (-9223372036854775808) } }
    let job : JobConfig := { errorLimit := some { record := some 10 } }
    let c : CoreConfig := { transport := { channel, exchanger := { bufferSize := 4 } }, job }
    let v : Json := .object [
      ("note", .array [.bool true, .string "a b"]),
      ("job", .object [("errorLimit", .object [("more", .null), ("record", .nat 10)])]),
      ("transport", .object [("channel", .object [
        ("speed", .object [("record", .null), ("byte", .int (-9223372036854775808))]),
        ("capacity", .nat 18446744073709551615)])])]
    c.IsInRange ∧ (∀ limit ∈ c.job.errorLimit, limit.percentage = none) ∧ Excerpt c.toJson v ∧
      v.FitsYaml ∧ ofText v.render = .ok { transport := { channel }, job } := by
  intro channel job c v
  have inRange : c.IsInRange :=
    ⟨⟨by decide, by decide, ⟨by decide, nofun⟩, by decide⟩, by decide, ⟨by decide, by decide, by decide⟩,
      ⟨by decide, by decide, by decide⟩, by decide, by decide, by decide⟩
  have noPercentage : ∀ limit ∈ c.job.errorLimit, limit.percentage = none := by
    rintro _ ⟨⟩
    rfl
  have speed : Excerpt channel.speed.toJson (.object [("record", .null),
      ("byte", .int (-9223372036854775808))]) :=
    .part (by decide) (by rintro _ (_ | ⟨_, _ | ⟨_, ⟨⟩⟩⟩) _ ⟨⟩ <;> exact .whole nofun)
  have limit : Excerpt (ErrorLimitConfig.toJson { record := some 10 }) (.object [("more", .null),
      ("record", .nat 10)]) :=
    .part (by decide) (by rintro _ (_ | ⟨_, _ | ⟨_, ⟨⟩⟩⟩) _ ⟨⟩; exact .whole nofun)
  have part : Excerpt c.toJson v := by
    refine .part (by decide) (List.forall_iff_forall_mem.mp ⟨nofun, ?_, ?_⟩)
    · rintro _ ⟨⟩
      refine .part (by decide) (List.forall_mem_singleton.mpr ?_)
      rintro _ ⟨⟩
      exact limit
    · rintro _ ⟨⟩
      refine .part (by decide) (List.forall_mem_singleton.mpr ?_)
      rintro _ ⟨⟩
      refine .part (by decide) (List.forall_iff_forall_mem.mp ⟨?_, ?_⟩)
      · rintro _ ⟨⟩
        exact speed
      · rintro _ ⟨⟩
        exact .whole nofun
  have fits : v.FitsYaml := by
    refine .object (by decide) (List.forall_iff_forall_mem.mp ⟨?_, ?_, ?_⟩)
    · exact .array (List.forall_iff_forall_mem.mp ⟨.bool true, .string (by decide)⟩)
    · refine .object (by decide) (List.forall_mem_singleton.mpr ?_)
      exact .object (by decide) (List.forall_iff_forall_mem.mp ⟨.null, .int 10⟩)
    · refine .object (by decide) (List.forall_mem_singleton.mpr (.object (by decide) ?_))
      refine List.forall_iff_forall_mem.mp ⟨.object (by decide) ?_, .int 18446744073709551615⟩
      exact List.forall_iff_forall_mem.mp ⟨.null, .int (-9223372036854775808)⟩
  obtain ⟨loads, reads, -⟩ := CoreConfig.ofText_excerpt c inRange noPercentage
  exact ⟨inRange, noPercentage, part, fits, loads v part (reads v part fits)⟩

end BatchSync
