import BatchSync.Proofs.Attempt.Passage
import Mathlib.Data.List.Chain

/-!
# Calls after the channel was closed

A sender makes one call of its exchanger after the other, while others change the line as they like and
close the channel at any time (`Outlet`). A call that begins on a closed channel is refused as soon as
it hands over its batch, and only a send that does not fill the buffer hands over nothing
(`OutCall.OnlyBuffers`). Such a send comes back well, although its record goes nowhere.

1. `Outlet.Sound` says how the calls and the records stand, and every move keeps it.
2. `Outlet.late_calls` says what becomes of late calls: how they are answered, that no more of them in a
   row are accepted than a buffer holds without being full, and that no record of theirs enters the
   channel.
-/

namespace BatchSync

/-! ## Calls one after the other -/

/-- A call of an exchanger on the way in, as it began. -/
structure OutCall where
  call : SenderCall
  /-- Whether the channel was closed by then. -/
  late : Bool
  /-- How many records waited in the buffer. -/
  buffered : Nat

namespace OutCall

/-- Whether a call sends a record that does not fill a buffer of the given size. -/
def OnlyBuffers (size : Nat) (c : OutCall) : Prop :=
  (∃ r, c.call = .send r) ∧ c.buffered + 1 < size

/-- What a late call is answered. -/
def IsAnswered (size : Nat) (c : OutCall) (r : Except Failure Unit) : Prop :=
  (c.OnlyBuffers size ∧ r = .ok ()) ∨ (¬ c.OnlyBuffers size ∧ r = .error .channelClosed)

theorem IsAnswered.iffs {size : Nat} {c : OutCall} {r : Except Failure Unit}
    (h : c.IsAnswered size r) :
    (r = .ok () ↔ c.OnlyBuffers size) ∧ (r = .error .channelClosed ↔ ¬ c.OnlyBuffers size) := by
  rcases h with ⟨only, rfl⟩ | ⟨hands, rfl⟩
  · exact ⟨iff_of_true rfl only, iff_of_false nofun (not_not_intro only)⟩
  · exact ⟨iff_of_false nofun hands, iff_of_true rfl hands⟩

/-- Whether a call finds the record of the call before it in the buffer, if that only buffered it. -/
def Follows (size : Nat) (before c : OutCall) : Prop :=
  before.OnlyBuffers size → c.buffered = before.buffered + 1

/-- The records of the calls that are not late. -/
def earlyOf (cs : List OutCall) : List Record := (cs.filter (!·.late)).flatMap (·.call.records)

theorem earlyOf_prefix (cs : List OutCall) (c : OutCall) :
    earlyOf cs <+: earlyOf (cs ++ [c]) := by
  unfold earlyOf
  rw [List.filter_append, List.flatMap_append]
  exact List.prefix_append _ _

theorem earlyOf_append_of_not_late {cs : List OutCall} {c : OutCall} (late : c.late = false) :
    earlyOf (cs ++ [c]) = earlyOf cs ++ c.call.records := by
  unfold earlyOf
  simp [late]

/-- The buffer grows by one with each call that only buffers. -/
theorem exists_buffered {size : Nat} {c : OutCall} {rest : List OutCall}
    (chain : (c :: rest).IsChain (Follows size)) (only : ∀ d ∈ c :: rest, d.OnlyBuffers size) :
    ∃ d ∈ c :: rest, c.buffered + rest.length = d.buffered := by
  induction rest generalizing c with
  | nil => exact ⟨c, List.mem_singleton_self c, rfl⟩
  | cons b rest ih =>
    obtain ⟨first, chain⟩ := List.isChain_cons.mp chain
    obtain ⟨d, mem, eq⟩ := ih chain fun d hd => only d (List.mem_cons_of_mem _ hd)
    have next := first b rfl (only c List.mem_cons_self)
    refine ⟨d, List.mem_cons_of_mem _ mem, ?_⟩
    rw [List.length_cons]
    omega

/-- Fewer calls in a row only buffer than a buffer has places. -/
theorem length_lt_of_onlyBuffers {size : Nat} {run : List OutCall} (pos : 0 < size)
    (chain : run.IsChain (Follows size)) (only : ∀ d ∈ run, d.OnlyBuffers size) :
    run.length < size := by
  cases run with
  | nil => exact pos
  | cons c rest =>
    obtain ⟨d, mem, eq⟩ := exists_buffered chain only
    have room := (only d mem).2
    rw [List.length_cons]
    omega

end OutCall

/-- An exchanger whose sender makes one call after the other, on a line that others change as well. -/
structure Outlet where
  line : Line
  exchanger : Exchanger
  /-- The call that has not come back, and how far it has come. -/
  current : Option (OutCall × Sending)
  /-- The calls that came back, with what they were answered. -/
  answers : List (OutCall × Except Failure Unit)
  /-- The records that these calls have put into the channel. -/
  entered : List Record

namespace Outlet

/-- A fresh exchanger on a line, before any call. -/
def make (bufferSize : Nat) (l : Line) : Outlet := ⟨l, .make bufferSize, none, [], []⟩

/-- What can happen: a call begins, goes on or comes back, or others change the line. -/
inductive Moves (o : Outlet) : Outlet → Prop
  | begin (c : SenderCall) (idle : o.current = none) :
      Moves o { o with
        exchanger := (c.start o.exchanger).1
        current := some (⟨c, o.line.channel.closed, o.exchanger.outgoing.length⟩,
          (c.start o.exchanger).2) }
  | go {c : OutCall} {d d' : Sending} {line : Line} (now : Nanos) (current : o.current = some (c, d))
      (h : d.step o.line now = some (line, d')) :
      Moves o { o with
        line
        current := some (c, d')
        entered := o.entered ++ Crossing.arrivals (d.crossings o.line) }
  | back {c : OutCall} {r : Except Failure Unit} (current : o.current = some (c, .returned r)) :
      Moves o { o with current := none, answers := o.answers ++ [(c, r)] }
  | others {cs : List Crossing} {line : Line} (h : o.line.Change cs line) : Moves o { o with line }

/-- What a fresh exchanger can come to. -/
inductive IsReached (bufferSize : Nat) (l : Line) : Outlet → Prop
  | start : IsReached bufferSize l (make bufferSize l)
  | move {o o' : Outlet} (reached : IsReached bufferSize l o) (h : o.Moves o') :
      IsReached bufferSize l o'

/-- All calls that were begun. -/
def calls (o : Outlet) : List OutCall := o.answers.map Prod.fst ++ (o.current.map Prod.fst).toList

/-- The records that were handed over before the channel was closed. -/
def early (o : Outlet) : List Record := OutCall.earlyOf o.calls

/-- The records that the call that has not come back has still to put in. -/
def pending (o : Outlet) : List Record := (o.current.map (·.2.pending)).getD []

end Outlet

/-! ## How late calls go -/

/-- Where a late call stands: it has come back, or is about to be refused. -/
inductive Sending.StandsLate (size : Nat) (c : OutCall) : Sending → Prop
  | offering {d : Sending} {batch : List Record} {ends : Bool} (offer : d.Offers batch ends)
      (hands : ¬ c.OnlyBuffers size) : StandsLate size c d
  | returned {r : Except Failure Unit} (answer : c.IsAnswered size r) :
      StandsLate size c (.returned r)

namespace Exchanger

variable {x : Exchanger}

theorem send_of_full {r : Record} (full : x.bufferSize ≤ x.outgoing.length + 1) :
    x.send r = ({ x with outgoing := [] }, .pushing (x.outgoing ++ [r]) false) := by
  have full : x.bufferSize ≤ (x.outgoing ++ [r]).length := by
    rwa [List.length_append, List.length_singleton]
  exact if_pos full

theorem send_of_room {r : Record} (room : x.outgoing.length + 1 < x.bufferSize) :
    x.send r = ({ x with outgoing := x.outgoing ++ [r] }, .returned (.ok ())) := by
  have room : ¬ x.bufferSize ≤ (x.outgoing ++ [r]).length := by
    rw [List.length_append, List.length_singleton]
    exact Nat.not_le.mpr room
  exact if_neg room

/-- What a call does at its beginning: it hands over what is buffered, or it only buffers its record. -/
theorem start_eq_or (x : Exchanger) (c : SenderCall) (late : Bool) :
    (¬ OutCall.OnlyBuffers x.bufferSize ⟨c, late, x.outgoing.length⟩ ∧ ∃ batch ends,
      c.start x = ({ x with outgoing := [] }, .pushing batch ends)) ∨
    (OutCall.OnlyBuffers x.bufferSize ⟨c, late, x.outgoing.length⟩ ∧ ∃ r,
      c.start x = ({ x with outgoing := x.outgoing ++ [r] }, .returned (.ok ()))) := by
  cases c with
  | flush =>
    refine .inl ⟨?_, _, _, rfl⟩
    rintro ⟨⟨r, eq⟩, -⟩
    cases eq
  | terminate =>
    refine .inl ⟨?_, _, _, rfl⟩
    rintro ⟨⟨r, eq⟩, -⟩
    cases eq
  | send r =>
    rcases Nat.lt_or_ge (x.outgoing.length + 1) x.bufferSize with room | full
    · exact .inr ⟨⟨⟨r, rfl⟩, room⟩, r, send_of_room room⟩
    · exact .inl ⟨fun only => Nat.not_le.mpr only.2 full, _, _, send_of_full full⟩

end Exchanger

/-- A late call is refused once it offers its batch. -/
theorem Sending.StandsLate.moves {size : Nat} {c : OutCall} {l l' : Line} {now : Nanos}
    {d d' : Sending} {cs : List Crossing} (stands : d.StandsLate size c)
    (closed : l.channel.closed = true) (h : d.Moves l now cs l' d') : d'.StandsLate size c := by
  cases stands with
  | returned answer => exact absurd h not_moves_returned
  | offering offer hands =>
    cases h with
    | wait full => rw [Channel.delays_iff, closed] at full; cases full.2.1
    | refuse => exact .returned (.inr ⟨hands, rfl⟩)
    | enter _ _ isOpen => rw [closed] at isOpen; cases isOpen
    | meter => cases offer
    | throttle => cases offer
    | resume => cases offer
    | close => cases offer

theorem Sending.StandsLate.answered {size : Nat} {c : OutCall} {r : Except Failure Unit}
    (stands : StandsLate size c (.returned r)) : c.IsAnswered size r := by
  cases stands with
  | offering offer => cases offer
  | returned answer => exact answer

/-- A closed channel refuses what it is offered at once. -/
theorem Sending.Offers.step_eq_of_closed {l : Line} {d : Sending} {batch : List Record} {ends : Bool}
    (offer : d.Offers batch ends) (closed : l.channel.closed = true) (now : Nanos) :
    d.step l now = some (l, .returned (.error .channelClosed)) := by
  have refuses : ∀ waited, l.push batch waited = some (.error .channelClosed) := by
    intro waited
    have ready : l.channel.delays batch ≠ true := by
      rw [Ne, Channel.delays_iff, closed]
      rintro ⟨-, isOpen, -⟩
      cases isOpen
    rw [Line.push_eq, if_neg ready, if_pos closed]
  cases offer with
  | pushing => simp only [step, refuses]; rfl
  | waiting => simp only [step, refuses, Option.map_some]; rfl

/-- A step of a call on an open channel puts its batch in as a whole, or keeps it. -/
theorem Sending.Moves.arrivals_append_pending {l l' : Line} {now : Nanos} {d d' : Sending}
    {cs : List Crossing} (h : d.Moves l now cs l' d') (isOpen : l.channel.closed = false) :
    Crossing.arrivals cs ++ d'.pending = d.pending := by
  cases h with
  | wait => rfl
  | refuse _ closed => rw [isOpen] at closed; cases closed
  | @enter d batch ends offer =>
    rw [(isIn_entered batch ends).pending_eq, offer.pending_eq.1]
    exact (List.append_nil _).trans (List.append_nil _)
  | meter => exact (isIn_passed _).pending_eq
  | throttle => rfl
  | resume => exact (isIn_passed _).pending_eq
  | close => rfl

theorem Sending.Moves.arrivals_of_closed {l l' : Line} {now : Nanos} {d d' : Sending}
    {cs : List Crossing} (h : d.Moves l now cs l' d') (closed : l.channel.closed = true) :
    Crossing.arrivals cs = [] := by
  cases h with
  | enter _ _ isOpen => rw [isOpen] at closed; cases closed
  | wait | refuse | meter | throttle | resume | close => rfl

/-- A channel that is open was open before. -/
theorem Line.Change.isOpen {l l' : Line} {cs : List Crossing} (h : l.Change cs l')
    (isOpen : l'.channel.closed = false) : l.channel.closed = false := by
  cases closed : l.channel.closed with
  | false => rfl
  | true => rw [(h.of_closed closed).1] at isOpen; cases isOpen

namespace Outlet

/-- How the calls and the records of an exchanger stand. -/
structure Sound (size : Nat) (o : Outlet) : Prop where
  size_eq : o.exchanger.bufferSize = size
  /-- No call was late while the channel is open. -/
  punctual : o.line.channel.closed = false → ∀ c ∈ o.calls, c.late = false
  /-- While the channel is open, every record has entered it or is still to be put in. -/
  whole : o.line.channel.closed = false →
    o.entered ++ o.pending ++ o.exchanger.outgoing = o.early
  /-- What has entered the channel was handed over early. -/
  kept : o.entered <+: o.early
  /-- Calls find the records in the buffer that calls before them left there. -/
  chain : o.calls.IsChain (OutCall.Follows size)
  last : ∀ c ∈ o.calls.getLast?, c.OnlyBuffers size →
    o.exchanger.outgoing.length = c.buffered + 1
  inHand : ∀ c d, o.current = some (c, d) → c.late = true →
    o.line.channel.closed = true ∧ d.StandsLate size c
  answered : ∀ a ∈ o.answers, a.1.late = true → a.1.IsAnswered size a.2

variable {size : Nat} {o o' : Outlet}

theorem sound_make (bufferSize : Nat) (l : Line) : (make bufferSize l).Sound (max bufferSize 1) where
  size_eq := rfl
  punctual _ _ mem := nomatch mem
  whole _ := rfl
  kept := List.prefix_refl []
  chain := .nil
  last _ mem := nomatch mem
  inHand _ _ eq := nomatch eq
  answered _ mem := nomatch mem

/-- A call that begins is the last one. -/
theorem calls_begin {l : Line} {x x' : Exchanger} {as : List (OutCall × Except Failure Unit)}
    {rs : List Record} (c : OutCall) (d : Sending) :
    calls ⟨l, x', some (c, d), as, rs⟩ = calls ⟨l, x, none, as, rs⟩ ++ [c] := by
  have none_ : calls ⟨l, x, none, as, rs⟩ = as.map Prod.fst := List.append_nil _
  rw [none_]
  rfl

theorem Sound.begin {x : Exchanger} {l : Line} {as : List (OutCall × Except Failure Unit)}
    {rs : List Record} (h : Sound size ⟨l, x, none, as, rs⟩) (c : SenderCall) :
    Sound size ⟨l, (c.start x).1, some (⟨c, l.channel.closed, x.outgoing.length⟩, (c.start x).2),
      as, rs⟩ := by
  -- Either all that is buffered leaves the buffer, or one record is added and the call is over.
  have starts := x.start_eq_or c l.channel.closed
  rw [h.size_eq] at starts
  generalize made : OutCall.mk c l.channel.closed x.outgoing.length = call at starts ⊢
  have grown : calls ⟨l, (c.start x).1, some (call, (c.start x).2), as, rs⟩ =
      calls ⟨l, x, none, as, rs⟩ ++ [call] := calls_begin call _
  constructor
  case size_eq => rcases starts with ⟨-, _, _, eq⟩ | ⟨-, _, eq⟩ <;> rw [eq]
  case punctual =>
    rw [grown]
    intro isOpen d mem
    rcases List.mem_append.mp mem with mem | mem
    · exact h.punctual isOpen d mem
    · rw [List.mem_singleton.mp mem, ← made]
      exact isOpen
  case whole =>
    intro isOpen
    have whole : rs ++ [] ++ x.outgoing = OutCall.earlyOf (calls ⟨l, x, none, as, rs⟩) :=
      h.whole isOpen
    have late : call.late = false := made ▸ isOpen
    show rs ++ (c.start x).2.pending ++ (c.start x).1.outgoing = OutCall.earlyOf (calls _)
    rw [grown, OutCall.earlyOf_append_of_not_late late, ← whole, ← made, List.append_nil,
      List.append_assoc, List.append_assoc, (c.pending_start x).1]
  case kept =>
    unfold early
    rw [grown]
    exact h.kept.trans (OutCall.earlyOf_prefix _ call)
  case chain =>
    rw [grown]
    refine List.isChain_append.mpr ⟨h.chain, .singleton _, ?_⟩
    rintro before mem _ ⟨⟩ only
    rw [← made]
    exact h.last before mem only
  case last =>
    rw [grown, List.getLast?_concat]
    rintro _ ⟨⟩ only
    rcases starts with ⟨hands, -⟩ | ⟨-, r, eq⟩
    · exact absurd only hands
    · rw [eq, ← made]
      exact List.length_append
  case inHand =>
    rintro _ d ⟨⟩ late
    refine ⟨made ▸ late, ?_⟩
    rcases starts with ⟨hands, batch, ends, eq⟩ | ⟨only, _, eq⟩
    · rw [eq]
      exact .offering (.pushing batch ends) hands
    · rw [eq]
      exact .returned (.inl ⟨only, rfl⟩)
  case answered => exact h.answered

theorem Sound.go {x : Exchanger} {l l' : Line} {c : OutCall} {d d' : Sending} {now : Nanos}
    {cs : List Crossing} {as : List (OutCall × Except Failure Unit)} {rs : List Record}
    (h : Sound size ⟨l, x, some (c, d), as, rs⟩) (hm : d.Moves l now cs l' d') :
    Sound size ⟨l', x, some (c, d'), as, rs ++ Crossing.arrivals cs⟩ := by
  have isOpen : l'.channel.closed = false → l.channel.closed = false := hm.change.isOpen
  have whole : l.channel.closed = false →
      rs ++ Crossing.arrivals cs ++ d'.pending ++ x.outgoing =
        early ⟨l, x, some (c, d), as, rs⟩ := by
    intro isOpen
    rw [← h.whole isOpen, List.append_assoc rs, hm.arrivals_append_pending isOpen]
    rfl
  constructor
  case size_eq => exact h.size_eq
  case punctual => exact fun open' => h.punctual (isOpen open')
  case whole => exact fun open' => whole (isOpen open')
  case kept =>
    show rs ++ Crossing.arrivals cs <+: early ⟨l, x, some (c, d), as, rs⟩
    cases closed : l.channel.closed with
    | true =>
      rw [hm.arrivals_of_closed closed, List.append_nil]
      exact h.kept
    | false =>
      rw [← whole closed, List.append_assoc]
      exact List.prefix_append _ _
  case chain => exact h.chain
  case last => exact h.last
  case inHand =>
    rintro _ _ ⟨⟩ late
    obtain ⟨closed, stands⟩ := h.inHand c d rfl late
    exact ⟨(hm.change.of_closed closed).1, stands.moves closed hm⟩
  case answered => exact h.answered

theorem Sound.back {x : Exchanger} {l : Line} {c : OutCall} {r : Except Failure Unit}
    {as : List (OutCall × Except Failure Unit)} {rs : List Record}
    (h : Sound size ⟨l, x, some (c, .returned r), as, rs⟩) :
    Sound size ⟨l, x, none, as ++ [(c, r)], rs⟩ := by
  have same : calls ⟨l, x, none, as ++ [(c, r)], rs⟩ =
      calls ⟨l, x, some (c, .returned r), as, rs⟩ := by
    show (as ++ [(c, r)]).map Prod.fst ++ [] = as.map Prod.fst ++ [c]
    rw [List.map_append, List.append_nil]
    rfl
  constructor
  case size_eq => exact h.size_eq
  case punctual =>
    rw [same]
    exact h.punctual
  case whole =>
    unfold early
    rw [same]
    exact h.whole
  case kept =>
    unfold early
    rw [same]
    exact h.kept
  case chain =>
    rw [same]
    exact h.chain
  case last =>
    rw [same]
    exact h.last
  case inHand => exact nofun
  case answered =>
    intro a mem late
    rcases List.mem_append.mp mem with mem | mem
    · exact h.answered a mem late
    · rw [List.mem_singleton.mp mem] at late ⊢
      exact (h.inHand c _ rfl late).2.answered

theorem Sound.others {x : Exchanger} {l l' : Line} {current : Option (OutCall × Sending)}
    {as : List (OutCall × Except Failure Unit)} {rs : List Record} {cs : List Crossing}
    (h : Sound size ⟨l, x, current, as, rs⟩) (hc : l.Change cs l') :
    Sound size ⟨l', x, current, as, rs⟩ where
  size_eq := h.size_eq
  punctual isOpen := h.punctual (hc.isOpen isOpen)
  whole isOpen := h.whole (hc.isOpen isOpen)
  kept := h.kept
  chain := h.chain
  last := h.last
  inHand c d eq late := (h.inHand c d eq late).imp (fun closed => (hc.of_closed closed).1) id
  answered := h.answered

theorem sound_of_reached {bufferSize : Nat} {l : Line} (h : IsReached bufferSize l o) :
    o.Sound (max bufferSize 1) := by
  induction h with
  | start => exact sound_make bufferSize l
  | @move o o' reached hm ih =>
    obtain ⟨line, x, current, as, rs⟩ := o
    cases hm with
    | begin c idle => cases idle; exact ih.begin c
    | go now current h => cases current; exact ih.go (Sending.moves_of_step h)
    | back current => cases current; exact ih.back
    | others hc => exact ih.others hc

/-- A late call that only buffers comes back well, and any other is refused. No late call waits, fewer
of those that are accepted stand in a row than records make a batch, and none of their records enters
the channel. -/
theorem late_calls {bufferSize : Nat} {l : Line} (reached : IsReached bufferSize l o) :
    (∀ a ∈ o.answers, a.1.late = true →
      (a.2 = .ok () ↔ a.1.OnlyBuffers (max bufferSize 1)) ∧
      (a.2 = .error .channelClosed ↔ ¬ a.1.OnlyBuffers (max bufferSize 1))) ∧
    (∀ c d, o.current = some (c, d) → c.late = true → ∀ now,
      d = .returned (.ok ()) ∨ d = .returned (.error .channelClosed) ∨
      d.step o.line now = some (o.line, .returned (.error .channelClosed))) ∧
    (∀ run, run <:+: o.answers → (∀ a ∈ run, a.1.late = true) → max bufferSize 1 ≤ run.length →
      ∃ a ∈ run, a.2 = .error .channelClosed) ∧
    o.entered <+: o.early := by
  have sound := sound_of_reached reached
  refine ⟨fun a mem late => (sound.answered a mem late).iffs, fun c d current late now => ?_,
    fun run part late long => ?_, sound.kept⟩
  · obtain ⟨closed, stands⟩ := sound.inHand c d current late
    cases stands with
    | offering offer => exact .inr (.inr (offer.step_eq_of_closed closed now))
    | returned answer =>
      rcases answer with ⟨-, rfl⟩ | ⟨-, rfl⟩
      · exact .inl rfl
      · exact .inr (.inl rfl)
  · by_contra none_
    -- Without a refusal all calls of the run only buffer, and the buffer has no room for so many.
    have only : ∀ c ∈ run.map Prod.fst, c.OnlyBuffers (max bufferSize 1) := by
      intro c inRun
      obtain ⟨a, mem, rfl⟩ := List.mem_map.mp inRun
      by_contra hands
      have answered := sound.answered a (part.subset mem) (late a mem)
      exact none_ ⟨a, mem, answered.iffs.2.mpr hands⟩
    have inCalls : run.map Prod.fst <:+: o.calls :=
      (part.map Prod.fst).trans (List.prefix_append _ _).isInfix
    have inRow := List.IsChain.infix sound.chain inCalls
    have short := OutCall.length_lt_of_onlyBuffers (Nat.le_max_right bufferSize 1) inRow only
    rw [List.length_map] at short
    exact Nat.not_lt.mpr long short

/-- Others closed the line, and then a record was sent twice through a buffer for two of them. -/
def sentTwice (l : Line) (r : Record) : Outlet :=
  ⟨l.close, ⟨2, [], [], false⟩, none,
    [(⟨.send r, true, 0⟩, .ok ()), (⟨.send r, true, 1⟩, .error .channelClosed)], []⟩

theorem isReached_sentTwice (l : Line) (r : Record) : IsReached 2 l (sentTwice l r) := by
  have closed : IsReached 2 l (make 2 l.close) := .move .start (.others .close)
  have first : IsReached 2 l ⟨l.close, ⟨2, [r], [], false⟩,
      some (⟨.send r, true, 0⟩, .returned (.ok ())), [], []⟩ := closed.move (.begin (.send r) rfl)
  have second : IsReached 2 l ⟨l.close, ⟨2, [], [], false⟩,
      some (⟨.send r, true, 1⟩, .pushing [r, r] false), [(⟨.send r, true, 0⟩, .ok ())], []⟩ :=
    (first.move (.back rfl)).move (.begin (.send r) rfl)
  have refused := (Sending.Offers.pushing [r, r] false).step_eq_of_closed (l := l.close) rfl 0
  have nothing : Crossing.arrivals (Sending.crossings l.close (.pushing [r, r] false)) = [] :=
    (Sending.moves_of_step refused).arrivals_of_closed rfl
  have third := second.move (.go 0 rfl refused)
  rw [nothing] at third
  exact third.move (.back rfl)

/-- Of two sends on a closed line the first is accepted, the second refused, and nothing has entered. -/
theorem late_calls_sentTwice :
    let o := sentTwice (.ofConfig {} (.ofState .running 0) 0) .empty
    IsReached 2 (.ofConfig {} (.ofState .running 0) 0) o ∧
      (∃ a ∈ o.answers, a.1.late = true ∧ a.2 = .ok () ∧ a.1.OnlyBuffers 2) ∧
      (∃ a ∈ o.answers, a.2 = .error .channelClosed) ∧ o.entered <+: o.early := by
  intro o
  have reached := isReached_sentTwice (.ofConfig {} (.ofState .running 0) 0) .empty
  obtain ⟨answered, -, inRow, kept⟩ := late_calls reached
  refine ⟨reached, ⟨_, List.mem_cons_self, rfl, rfl, ?_⟩, inRow o.answers ?_ ?_ ?_, kept⟩
  · exact (answered _ List.mem_cons_self rfl).1.mp rfl
  · exact List.infix_refl _
  · intro a mem
    rcases List.mem_pair.mp mem with rfl | rfl <;> rfl
  · exact Nat.le_refl 2

/-- A send that begins on a closed channel does not always fail. -/
theorem not_every_late_send_fails :
    ¬ ∀ (bufferSize : Nat) (l : Line) (o : Outlet), IsReached bufferSize l o →
      ∀ a ∈ o.answers, a.1.late = true → (∃ r, a.1.call = .send r) →
        a.2 = .error .channelClosed := by
  intro fails
  have reached := isReached_sentTwice (.ofConfig {} (.ofState .running 0) 0) .empty
  have first := fails 2 _ _ reached _ List.mem_cons_self rfl ⟨.empty, rfl⟩
  cases first

end Outlet

end BatchSync
