import BatchSync.Proofs.Channel.Changes
import BatchSync.Proofs.Status.Merging

/-!
# Batches and single records

A batch that has room goes in as its records do one after the other, and a batch that is taken out comes
out as single records do. Both come from one law for each direction: what two calls do one after the
other, one call does at once (`Line.enter_enter`, `Line.release_release`).

A call that puts records in also looks at the flow, and may pause. A call that runs alone
(`Sending.Runs`) takes all of its steps, while time passes and the flow control may be moved by producers
that came before it.
-/

namespace BatchSync

/-! ## Two calls as one -/

namespace Counters

/-- Two amounts are added as their sum. -/
theorem add_add (s : Counters) (c : Counter) (m n : Nat) : (s.add c m).add c n = s.add c (m + n) := by
  ext d
  by_cases h : d = c
  · subst h
    rw [get_add_self, get_add_self, get_add_self, UInt64.ofNat_add, UInt64.add_assoc]
  · rw [get_add_of_ne _ _ h, get_add_of_ne _ _ h, get_add_of_ne _ _ h]

/-- Amounts may be added in any order. -/
theorem add_right_comm (s : Counters) (c d : Counter) (m n : Nat) :
    (s.add c m).add d n = (s.add d n).add c m := by
  by_cases same : c = d
  · subst same
    rw [add_add, add_add, Nat.add_comm]
  · ext e
    by_cases hd : e = d
    · subst hd
      rw [get_add_self, get_add_of_ne _ _ (Ne.symm same), get_add_of_ne _ _ (Ne.symm same),
        get_add_self]
    · rw [get_add_of_ne _ _ hd]
      by_cases hc : e = c
      · subst hc
        rw [get_add_self, get_add_self, get_add_of_ne _ _ hd]
      · rw [get_add_of_ne _ _ hc, get_add_of_ne _ _ hc, get_add_of_ne _ _ hd]

theorem add_zero (s : Counters) (c : Counter) : s.add c 0 = s := by
  ext d
  by_cases h : d = c
  · subst h
    simp
  · rw [get_add_of_ne _ _ h]

end Counters

namespace TaskStatus

theorem add_add (s : TaskStatus) (c : Counter) (m n : Nat) :
    (s.add c m).add c n = s.add c (m + n) := by
  simp only [add, Counters.add_add]

theorem add_right_comm (s : TaskStatus) (c d : Counter) (m n : Nat) :
    (s.add c m).add d n = (s.add d n).add c m := by
  simp only [add, Counters.add_right_comm _ c d]

@[simp] theorem add_zero (s : TaskStatus) (c : Counter) : s.add c 0 = s := by
  simp only [add, Counters.add_zero]

end TaskStatus

namespace Channel

theorem insert_insert (c : Channel) (a b : List Record) :
    (c.insert a).insert b = c.insert (a ++ b) := by
  simp only [insert, List.append_assoc, totalSize_append, Nat.add_assoc]

theorem discharge_discharge (c : Channel) (m n : Nat) :
    (c.discharge m).discharge n = c.discharge (m + n) := by
  simp only [discharge, List.drop_drop, List.take_add, totalSize_append, Nat.sub_sub]

@[simp] theorem discharge_zero (c : Channel) : c.discharge 0 = c := by
  simp [discharge]

theorem take_min (c : Channel) (n : Nat) : c.queue.take (min c.size n) = c.queue.take n := by
  rw [List.take_eq_take_iff, size]
  omega

/-- More records than there are leave as all of them. -/
theorem discharge_min (c : Channel) (n : Nat) : c.discharge (min c.size n) = c.discharge n := by
  rcases Nat.le_total c.size n with h | h
  · have all : c.queue.length ≤ n := h
    rw [Nat.min_eq_left h]
    simp only [discharge, size, List.drop_length, List.drop_eq_nil_of_le all, List.take_length,
      List.take_of_length_le all]
  · rw [Nat.min_eq_right h]

end Channel

namespace Line

theorem countRead_countRead (s : TaskStatus) (a b : List Record) :
    countRead (countRead s a) b = countRead s (a ++ b) := by
  unfold countRead
  rw [TaskStatus.add_right_comm _ .readSucceedBytes .readSucceedRecords, TaskStatus.add_add,
    TaskStatus.add_add, Channel.totalSize_append, List.length_append]

theorem countReceived_countReceived (s : TaskStatus) (a b : List Record) :
    countReceived (countReceived s a) b = countReceived s (a ++ b) := by
  unfold countReceived
  rw [TaskStatus.add_right_comm _ .writeReceivedBytes .writeReceivedRecords, TaskStatus.add_add,
    TaskStatus.add_add, Channel.totalSize_append, List.length_append]

/-- Two batches that go in one after the other go in as one. -/
theorem enter_enter (l : Line) (a b : List Record) : (l.enter a 0).enter b 0 = l.enter (a ++ b) 0 := by
  simp only [enter, TaskStatus.add_zero, Channel.insert_insert, countRead_countRead]

/-- Records that are taken out in two calls are taken out as in one. -/
theorem release_release (l : Line) (m n : Nat) :
    (l.release m 0).release n 0 = l.release (m + n) 0 := by
  simp only [release, TaskStatus.add_zero, Channel.discharge_discharge, countReceived_countReceived,
    List.take_add]
  rfl

@[simp] theorem enter_nil (l : Line) : l.enter [] 0 = l := by
  simp [enter, countRead]

/-- A line from which nothing is taken stays as it is. -/
@[simp] theorem release_zero (l : Line) : l.release 0 0 = l := by
  simp [release, countReceived]

theorem release_min (l : Line) (n : Nat) : l.release (min l.channel.size n) 0 = l.release n 0 := by
  simp only [release, Channel.take_min, Channel.discharge_min]

/-- Whether two lines hold the same records and have counted the same. Their flow control may differ. -/
def SameTraffic (l m : Line) : Prop := m.channel = l.channel ∧ m.status = l.status

theorem SameTraffic.refl (l : Line) : l.SameTraffic l := ⟨rfl, rfl⟩

theorem SameTraffic.trans {l m n : Line} (h : l.SameTraffic m) (h' : m.SameTraffic n) :
    l.SameTraffic n :=
  ⟨h'.1.trans h.1, h'.2.trans h.2⟩

theorem SameTraffic.enter {l m : Line} (h : l.SameTraffic m) (batch : List Record) :
    (l.enter batch 0).SameTraffic (m.enter batch 0) := by
  unfold SameTraffic Line.enter
  rw [h.1, h.2]
  exact ⟨rfl, rfl⟩

end Line

/-! ## Calls that run alone -/

namespace Sending

/-- A call on the way in that runs alone, from a stage to what it returns. Time passes between its steps,
and other producers may move the flow control. -/
inductive Runs : Line → Sending → Line → Except Failure Unit → Prop
  | returned (l : Line) (r : Except Failure Unit) : Runs l (.returned r) l r
  | step {l l₁ l₂ : Line} {d d₁ : Sending} {r : Except Failure Unit} (now : Nanos)
      (h : d.step l now = some (l₁, d₁)) (rest : Runs l₁ d₁ l₂ r) : Runs l d l₂ r
  | reflow {l l₂ : Line} {d : Sending} {r : Except Failure Unit} (flow : FlowControl)
      (rest : Runs { l with flow } d l₂ r) : Runs l d l₂ r

/-- Whether the batch of a call is in and only the flow is still looked at. -/
inductive HasEntered : Sending → Prop
  | metering : HasEntered (.metering false)
  | pausing (p : Pause) : HasEntered (.pausing p false)
  | returned : HasEntered (.returned (.ok ()))

theorem HasEntered.moves {l l' : Line} {now : Nanos} {d d' : Sending} {cs : List Crossing}
    (entered : d.HasEntered) (h : d.Moves l now cs l' d') : d'.HasEntered ∧ l.SameTraffic l' := by
  cases entered with
  | metering =>
    cases h with
    | refuse offer => cases offer
    | enter offer => cases offer
    | meter flow => exact ⟨.returned, rfl, rfl⟩
    | throttle flow p => exact ⟨.pausing p, rfl, rfl⟩
  | pausing p =>
    cases h with
    | refuse offer => cases offer
    | enter offer => cases offer
    | resume => exact ⟨.returned, rfl, rfl⟩
  | returned => exact absurd h not_moves_returned

/-- A call whose batch is in comes back without a failure, and puts in nothing more. -/
theorem HasEntered.runs {l l' : Line} {d : Sending} {r : Except Failure Unit}
    (entered : d.HasEntered) (h : Runs l d l' r) : r = .ok () ∧ l.SameTraffic l' := by
  induction h with
  | returned l r => cases entered; exact ⟨rfl, .refl l⟩
  | step now h rest ih =>
    obtain ⟨entered, same⟩ := entered.moves (moves_of_step h)
    obtain ⟨ok, same'⟩ := ih entered
    exact ⟨ok, same.trans same'⟩
  | reflow flow rest ih =>
    obtain ⟨ok, same⟩ := ih entered
    exact ⟨ok, same⟩

variable {l l' : Line} {batch : List Record}

/-- A batch that has room goes in at once. -/
theorem step_pushing (isOpen : l.channel.closed = false) (nonempty : batch ≠ [])
    (room : l.channel.delays batch = false) (now : Nanos) :
    (pushing batch false).step l now = some (l.enter batch 0, .metering false) := by
  have in_ : l.push batch 0 = some (.ok (l.enter batch 0)) := by
    rw [Line.push_eq, room, isOpen, if_neg Bool.false_ne_true, if_neg Bool.false_ne_true]
  have some_ : batch.isEmpty = false := by simpa using nonempty
  simp only [step, in_, pushed, some_, if_neg Bool.false_ne_true]

theorem runs_pushing (isOpen : l.channel.closed = false) (nonempty : batch ≠ [])
    (room : l.channel.delays batch = false) {r : Except Failure Unit}
    (h : Runs l (.pushing batch false) l' r) : r = .ok () ∧ (l.enter batch 0).SameTraffic l' := by
  generalize start : Sending.pushing batch false = d at h
  induction h with
  | returned => cases start
  | step now h rest =>
    subst start
    rw [step_pushing isOpen nonempty room] at h
    cases h
    exact HasEntered.metering.runs rest
  | reflow flow rest ih => exact ih isOpen room start

/-- A call whose batch is in comes back once no other producer keeps the sample. -/
theorem exists_runs_metering (l : Line) : ∃ l', Runs l (.metering false) l' (.ok ()) := by
  -- A sample that another producer holds is given back before this call takes its own.
  let free : Line := { l with flow := { l.flow with held := false } }
  suffices ∃ l', Runs free (.metering false) l' (.ok ()) by
    obtain ⟨l', run⟩ := this
    exact ⟨l', .reflow _ run⟩
  cases metered : free.flow.meter free.status 0 with
  | none => exact absurd (FlowControl.held_of_meter_eq_none metered) Bool.false_ne_true
  | some m =>
    obtain ⟨flow, pause⟩ := m
    cases pause with
    | none => exact ⟨_, .step 0 (by simp only [step, metered]; rfl) (.returned _ _)⟩
    | some p =>
      have resumes : (pausing p false).step { free with flow } p.ends =
          some ({ free with flow := flow.resume p p.ends }, .returned (.ok ())) := by
        simp [step, passed]
      exact ⟨_, .step 0 (by simp only [step, metered]; rfl) (.step p.ends resumes (.returned _ _))⟩

/-- A batch that has room goes in, and its call comes back. -/
theorem exists_runs_pushing (isOpen : l.channel.closed = false) (nonempty : batch ≠ [])
    (room : l.channel.delays batch = false) : ∃ l', Runs l (.pushing batch false) l' (.ok ()) := by
  obtain ⟨l', run⟩ := exists_runs_metering (l.enter batch 0)
  exact ⟨l', .step 0 (step_pushing isOpen nonempty room 0) run⟩

end Sending

/-! ## One record after the other -/

namespace Line

/-- Records are put into a line one after the other, each by a call of its own that comes back without a
failure. -/
inductive PutsEach : Line → List Record → Line → Prop
  | nil (l : Line) : PutsEach l [] l
  | cons {l l₁ l₂ : Line} {r : Record} {batch : List Record}
      (put : Sending.Runs l (.pushing [r] false) l₁ (.ok ())) (rest : PutsEach l₁ batch l₂) :
      PutsEach l (r :: batch) l₂

/-- Takes records out of a line one after the other, as many as given. A call that would have to wait
leaves all of it without an outcome. -/
def takeEach : Nat → Line → Option (List Record × Line)
  | 0, l => some ([], l)
  | n + 1, l =>
    match l.take .one 0 with
    | none => none
    | some (first, l) => (takeEach n l).map fun p => (first ++ p.1, p.2)

variable {l l' : Line} {batch first rest : List Record}

/-- A batch fits if it keeps to both bounds next to what is queued. -/
theorem exceeds_eq_false_iff {c : Channel} : c.exceeds batch = false ↔
    c.queue.length + batch.length ≤ c.capacity ∧
      c.bytes + totalSize batch ≤ c.byteCapacity := by
  unfold Channel.exceeds Channel.size
  rw [Bool.or_eq_false_iff, decide_eq_false_iff_not, decide_eq_false_iff_not, Nat.not_lt, Nat.not_lt]

/-- What fits does not have to wait. -/
theorem delays_of_fits {c : Channel} (fits : c.exceeds batch = false) : c.delays batch = false := by
  simp [Channel.delays, Channel.holdsBack, fits]

theorem fits_first {c : Channel} (fits : c.exceeds (first ++ rest) = false) :
    c.exceeds first = false := by
  rw [exceeds_eq_false_iff] at fits ⊢
  rw [List.length_append, Channel.totalSize_append] at fits
  omega

/-- The rest of a batch that fits, fits behind the part of it that went in. -/
theorem fits_rest (fits : l.channel.exceeds (first ++ rest) = false)
    (entered : (l.enter first 0).SameTraffic l') : l'.channel.exceeds rest = false := by
  rw [entered.1]
  rw [exceeds_eq_false_iff] at fits ⊢
  rw [List.length_append, Channel.totalSize_append] at fits
  simp only [enter, Channel.insert, List.length_append]
  omega

/-- Records that fit go in one after the other as they do in one batch. -/
theorem PutsEach.sameTraffic (puts : l.PutsEach batch l') (isOpen : l.channel.closed = false)
    (fits : l.channel.exceeds batch = false) : (l.enter batch 0).SameTraffic l' := by
  induction puts with
  | nil l => rw [enter_nil]; exact .refl l
  | @cons l l₁ l₂ r batch put rest ih =>
    have fits : l.channel.exceeds ([r] ++ batch) = false := fits
    -- The bounds are kept for the rest of the batch because the first record is part of it.
    have one : (l.enter [r] 0).SameTraffic l₁ :=
      (Sending.runs_pushing isOpen (List.cons_ne_nil r []) (delays_of_fits (fits_first fits)) put).2
    have others : (l₁.enter batch 0).SameTraffic l₂ :=
      ih (by rw [one.1]; exact isOpen) (fits_rest fits one)
    have both := (one.enter batch).trans others
    rwa [enter_enter] at both

/-- Records that fit can be put in one after the other. -/
theorem exists_putsEach (isOpen : l.channel.closed = false)
    (fits : l.channel.exceeds batch = false) : ∃ l', l.PutsEach batch l' := by
  induction batch generalizing l with
  | nil => exact ⟨l, .nil l⟩
  | cons r batch ih =>
    have fits : l.channel.exceeds ([r] ++ batch) = false := fits
    have room := delays_of_fits (fits_first fits)
    obtain ⟨l₁, put⟩ := Sending.exists_runs_pushing isOpen (List.cons_ne_nil r []) room
    have one := (Sending.runs_pushing isOpen (List.cons_ne_nil r []) room put).2
    obtain ⟨l₂, rest⟩ := ih (by rw [one.1]; exact isOpen) (fits_rest fits one)
    exact ⟨l₂, .cons put rest⟩

/-- Records that are there are taken out one after the other as in one call. -/
theorem takeEach_eq {n : Nat} (there : n ≤ l.channel.size) :
    l.takeEach n = some (l.channel.queue.take n, l.release n 0) := by
  induction n generalizing l with
  | zero => simp [takeEach]
  | succ n ih =>
    have ready : l.channel.isDry = false := by
      rw [Bool.eq_false_iff, Ne, Channel.isDry_iff]
      rintro ⟨empty, -⟩
      rw [Channel.size, empty] at there
      cases there
    have left : n ≤ (l.release 1 0).channel.size := by
      simp only [release, Channel.discharge, Channel.size, List.length_drop] at there ⊢
      omega
    have next : l.channel.queue.take 1 ++ (l.release 1 0).channel.queue.take n =
        l.channel.queue.take (n + 1) := by
      rw [Nat.add_comm n 1, List.take_add]
      rfl
    rw [takeEach, take_eq, ready, if_neg Bool.false_ne_true]
    show ((l.release 1 0).takeEach n).map _ = _
    rw [ih left, Option.map_some, ← next, release_release, Nat.add_comm 1 n]
    rfl

/-- Batches do what single records do. A batch that fits next to the records of an open channel goes in at
once and leaves the records and the counters as its records do when they are put in one after the
other, each of them at once. From a channel that holds records or is closed, a batch is taken out as the
same records are one by one. -/
theorem batches_agree (l : Line) :
    (∀ batch, l.channel.closed = false → batch ≠ [] → l.channel.exceeds batch = false →
      (∃ all each, Sending.Runs l (.pushing batch false) all (.ok ()) ∧ l.PutsEach batch each) ∧
      (∀ all r each, Sending.Runs l (.pushing batch false) all r → l.PutsEach batch each →
        r = .ok () ∧ all.SameTraffic each) ∧
      ∀ first r rest each now, batch = first ++ r :: rest → l.PutsEach first each →
        (Sending.pushing [r] false).step each now = some (each.enter [r] 0, .metering false)) ∧
    ∀ most, l.channel.queue ≠ [] ∨ l.channel.closed = true →
      ∃ batch l', l.take (.upTo most) 0 = some (batch, l') ∧
        l.takeEach (min l.channel.size (max most 1)) = some (batch, l') := by
  refine ⟨fun batch isOpen nonempty fits => ⟨?_, ?_, ?_⟩, fun most ready => ?_⟩
  · obtain ⟨all, runs⟩ := Sending.exists_runs_pushing isOpen nonempty (delays_of_fits fits)
    obtain ⟨each, puts⟩ := exists_putsEach isOpen fits
    exact ⟨all, each, runs, puts⟩
  · intro all r each runs puts
    obtain ⟨ok, entered⟩ := Sending.runs_pushing isOpen nonempty (delays_of_fits fits) runs
    have same := puts.sameTraffic isOpen fits
    exact ⟨ok, same.1.trans entered.1.symm, same.2.trans entered.2.symm⟩
  · rintro first r rest each now rfl puts
    have entered := puts.sameTraffic isOpen (fits_first fits)
    have room : each.channel.exceeds ([r] ++ rest) = false := fits_rest fits entered
    exact Sending.step_pushing (by rw [entered.1]; exact isOpen) (List.cons_ne_nil r [])
      (delays_of_fits (fits_first room)) now
  · have notDry : l.channel.isDry = false := by
      rw [Bool.eq_false_iff, Ne, Channel.isDry_iff]
      rintro ⟨empty, isOpen⟩
      rcases ready with there | closed
      · exact there empty
      · rw [isOpen] at closed
        cases closed
    refine ⟨l.channel.queue.take (max most 1), l.release (max most 1) 0, ?_, ?_⟩
    · rw [take_eq, notDry, if_neg Bool.false_ne_true]
      rfl
    · rw [takeEach_eq (Nat.min_le_left _ _), release_min, Channel.take_min]

/-- Two records that go into the channel of a fresh task at once, and one by one. -/
theorem batches_agree_twoRecords :
    let l : Line := .ofConfig {} (.ofState .running 0) 0
    let batch : List Record := [.empty, .ofColumns [.null]]
    ∃ all each, Sending.Runs l (.pushing batch false) all (.ok ()) ∧ l.PutsEach batch each ∧
      all.SameTraffic each := by
  intro l batch
  obtain ⟨agree, -⟩ := batches_agree l
  obtain ⟨⟨all, each, runs, puts⟩, same, -⟩ :=
    agree batch rfl (List.cons_ne_nil _ _) (by decide +kernel)
  exact ⟨all, each, runs, puts, (same all (.ok ()) each runs puts).2⟩

end Line

end BatchSync
