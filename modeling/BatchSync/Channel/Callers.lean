import BatchSync.Channel.Exchanger

/-!
# Callers of a channel

Several callers share a line, directly or through exchangers. A call that has to wait stays until
others have changed the line. An exchanger serves one call at a time, in the order of the calls.

`serve` makes a call and then lets every call go on for as long as one of them can, the older ones
first. Every step makes the work that is left smaller, so this comes to an end.
-/

namespace BatchSync

/-- What is asked of a channel or of one of its exchangers. -/
inductive ChannelCall where
  | put (r : Record)
  | putAll (batch : List Record)
  | take
  | takeAll (most : Nat)
  | close
  /-- Asks whether nothing is queued. -/
  | look
  /-- Lets time pass. -/
  | sleep (millis : Nat)
  /-- Attaches one more exchanger. -/
  | attach (bufferSize : Nat)
  /-- Sends records one by one, after some were sent. -/
  | sendAll (x : Nat) (sent : Nat) (rest : List Record)
  | flush (x : Nat)
  | terminate (x : Nat)
  | receive (x : Nat)

/-- What a call returns. -/
inductive CallReply where
  | done
  | failed (f : Failure)
  /-- How many records were sent, and why no more were if that is so. -/
  | sent (count : Nat) (f : Option Failure)
  | record (r : Option Record)
  | batch (rs : List Record)
  | looked (isEmpty : Bool)

/-- How far a call has come. -/
inductive CallStage where
  /-- About to act. -/
  | ready
  | sending (c : Sending)
  | receiving (c : Receiving)
  | over (r : CallReply)

/-- A caller, known by the number of the call. -/
structure Caller where
  number : Nat
  call : ChannelCall
  stage : CallStage

/-- The exchanger that a call goes through, if any. -/
def ChannelCall.exchanger? : ChannelCall → Option Nat
  | .sendAll x _ _ => some x
  | .flush x => some x
  | .terminate x => some x
  | .receive x => some x
  | _ => none

/-- A bound on the steps of a call. -/
def ChannelCall.work : ChannelCall → Nat
  | .sendAll _ _ rest => 8 * (rest.length + 1)
  | _ => 8

/-- Whether a call has returned. -/
def Caller.isOver (c : Caller) : Bool :=
  match c.stage with
  | .over _ => true
  | _ => false

/-- A line with its exchangers and its callers, from the oldest call on. -/
structure Callers where
  line : Line
  now : Nanos
  exchangers : List Exchanger
  callers : List Caller
  /-- How many calls were made. -/
  made : Nat

namespace Callers

/-- A line without callers. -/
def ofLine (line : Line) (now : Nanos) : Callers := ⟨line, now, [], [], 0⟩

/-- An exchanger; one that was never attached passes records on one by one. -/
def exchanger (s : Callers) (x : Nat) : Exchanger := (s.exchangers[x]?).getD (.make 1)

/-- Replaces an exchanger. -/
def setExchanger (s : Callers) (x : Nat) (e : Exchanger) : Callers :=
  { s with exchangers := s.exchangers.set x e }

/-- Whether no older call goes through the same exchanger. -/
def isTurn (s : Callers) (c : Caller) : Bool :=
  match c.call.exchanger? with
  | none => true
  | some x => !(s.callers.any fun o =>
      o.number < c.number && !o.isOver && o.call.exchanger? == some x)

/-- Begins a call on the way in through an exchanger. -/
def through (s : Callers) (c : Caller) (x : Nat) (p : Exchanger × Sending) : Callers × Caller :=
  (s.setExchanger x p.1, { c with stage := .sending p.2 })

/-- Ends a call. -/
def answer (s : Callers) (c : Caller) (r : CallReply) : Callers × Caller :=
  (s, { c with stage := .over r })

/-- Begins a call, or goes on with the next record to send. -/
def act (s : Callers) (c : Caller) : Callers × Caller :=
  match c.call with
  | .put r => (s, { c with stage := .sending (.pushing [r] false) })
  | .putAll batch => (s, { c with stage := .sending (.pushing batch false) })
  | .take => (s, { c with stage := .receiving (.taking .one) })
  | .takeAll most => (s, { c with stage := .receiving (.taking (.upTo most)) })
  | .close => answer { s with line := s.line.close } c .done
  | .look => answer s c (.looked s.line.channel.isEmpty)
  | .sleep millis => answer { s with now := s.now + FlowControl.ofMillis millis } c .done
  | .attach bufferSize =>
    answer { s with exchangers := s.exchangers ++ [.make bufferSize] } c .done
  | .sendAll _ sent [] => answer s c (.sent sent none)
  | .sendAll x sent (r :: rest) =>
    through s { c with call := .sendAll x (sent + 1) rest } x ((s.exchanger x).send r)
  | .flush x => through s c x (s.exchanger x).flush
  | .terminate x => through s c x (s.exchanger x).terminate
  | .receive x =>
    match (s.exchanger x).refill? with
    | some r => (s, { c with stage := .receiving r })
    | none =>
      let (e, r) := (s.exchanger x).next
      answer (s.setExchanger x e) c (.record r)

/-- What follows when a call on the way in comes back. -/
def sent (s : Callers) (c : Caller) (r : Except Failure Unit) : Callers × Caller :=
  match c.call, r with
  | .sendAll _ _ _, .ok () => (s, { c with stage := .ready })
  | .sendAll _ sent _, .error f => answer s c (.sent (sent - 1) (some f))
  | _, .ok () => answer s c .done
  | _, .error f => answer s c (.failed f)

/-- What follows when a call on the way out comes back. -/
def received (s : Callers) (c : Caller) (batch : List Record) : Callers × Caller :=
  match c.call with
  | .receive x =>
    let (e, r) := ((s.exchanger x).accept batch).next
    answer (s.setExchanger x e) c (.record r)
  | .takeAll _ => answer s c (.batch batch)
  | _ => answer s c (.record batch.head?)

/-- The next step of a caller. There is none for one that has to wait or whose call is over. -/
def stepCaller (s : Callers) (c : Caller) : Option (Callers × Caller) :=
  match c.stage with
  | .ready => if s.isTurn c then some (s.act c) else none
  | .sending (.returned r) => some (s.sent c r)
  | .sending d => (d.step s.line s.now).map fun (line, d) =>
      ({ s with line }, { c with stage := .sending d })
  | .receiving (.returned batch) => some (s.received c batch)
  | .receiving d => (d.step s.line s.now).map fun (line, d) =>
      ({ s with line }, { c with stage := .receiving d })
  | .over _ => none

/-- Puts a caller in the place of the one with its number; the step took a moment. -/
def store (p : Callers × Caller) : Callers :=
  { p.1 with
    now := p.1.now + 1
    callers := p.1.callers.map fun o => if o.number = p.2.number then p.2 else o }

/-- A step of the oldest caller that can take one. -/
def step (s : Callers) : Option Callers :=
  (s.callers.findSome? fun c => s.stepCaller c).map store

/-- Steps for as long as a caller can take one, up to a number of them. -/
def settle : Nat → Callers → Callers
  | 0, s => s
  | n + 1, s =>
    match s.step with
    | some s => settle n s
    | none => s

/-- A bound on the steps of all callers. -/
def work (s : Callers) : Nat := s.callers.foldl (fun total c => total + c.call.work) 0

/-- The calls that are over, with what they returned, from the oldest on. -/
def replies (s : Callers) : List (Nat × CallReply) :=
  s.callers.filterMap fun c =>
    match c.stage with
    | .over r => some (c.number, r)
    | _ => none

/-- Forgets the calls that are over. -/
def dismiss (s : Callers) : Callers :=
  { s with callers := s.callers.filter fun c => !c.isOver }

/-- Makes a call, and returns the calls that came back because of it. -/
def serve (s : Callers) (call : ChannelCall) : Callers × List (Nat × CallReply) :=
  let s := { s with callers := s.callers ++ [⟨s.made, call, .ready⟩], made := s.made + 1 }
  let s := settle s.work s
  (s.dismiss, s.replies)

end Callers

end BatchSync
