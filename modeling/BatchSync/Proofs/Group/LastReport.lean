import BatchSync.Proofs.Group.Endings
import BatchSync.Proofs.Group.RootCause
import BatchSync.Proofs.Group.Stop
import BatchSync.Proofs.Hang.History

/-!
# The last report of an attempt

A driver looks whether the threads of its attempt have ended; if they have not, it goes to sleep, and
reports the attempt to the monitor when it wakes up. The threads may end while it sleeps, and it does not
look again before it reports. So an attempt may be found to hang after the bodies of both plugins have
come to a good end (`Chronicle.found_hung_after_the_end`).

This is all that can go wrong by then (`Chronicle.only_the_last_report_fails`). Once the threads have
ended nothing happens to an attempt but through its driver, there is no report but the one before which
the driver is asleep already (`DriverPhase.Tends.not_isReporting`), and the only failure that is captured
is the one found in it (`Trial.HasEnded`).
-/

namespace BatchSync

open AttemptEvent

variable {ρ ω : Type}

/-! ## The report that is ahead -/

namespace DriverPhase

/-- Whether the driver reports its attempt before it looks again whether the threads have ended. -/
def IsReporting : DriverPhase ρ ω → Prop
  | .sleeping _ _ _ => True
  | .stamping _ _ => True
  | .reporting _ _ => True
  | _ => False

variable {g : Group ρ ω} {t t' : Attempt ρ ω} {es : List AttemptEvent}
  {phase phase' : DriverPhase ρ ω} {f : Failure}

/-- Once the threads have ended no other report begins. -/
theorem Tends.not_isReporting (h : phase.Tends g t es t' phase') (ended : t.isOver = true)
    (aside : ¬ phase.IsReporting) : ¬ phase'.IsReporting := by
  cases h with
  | doze going => cases ended.symm.trans going
  | wake | stamp | findHung | report => exact absurd trivial aside
  | _ => exact id

/-- That an attempt hangs is found in a report. -/
theorem Tends.of_hung (h : phase.Tends g t es t' phase') (hung : .hung f ∈ es) :
    ∃ j a, phase = .reporting j a ∧ g.hung? j t = some f := by
  cases h with
  | findHung found =>
    cases List.mem_singleton.mp hung
    exact ⟨_, _, rfl, found⟩
  | stop | failed | sealed => cases List.mem_singleton.mp hung
  | _ => cases hung

end DriverPhase

/-! ## Attempts whose threads have ended -/

/-- The threads of an attempt have ended, and if a failure was captured, or is about to be, the attempt
was found to hang with it. -/
structure Trial.HasEnded (u : Trial ρ ω) (es : List AttemptEvent) : Prop where
  begun : u.attempt.threads.isSome = true
  ended : u.attempt.isOver = true
  captured : ∀ {f : Failure}, u.attempt.status.failure = some f → .hung f ∈ es
  owes : ∀ {phase : DriverPhase ρ ω}, u.phase = some phase → phase.Owes es

/-- The threads of an attempt have ended, and there is no report ahead. -/
structure Trial.IsUnreported (u : Trial ρ ω) : Prop where
  begun : u.attempt.threads.isSome = true
  ended : u.attempt.isOver = true
  aside : ∀ {phase : DriverPhase ρ ω}, u.phase = some phase → ¬ phase.IsReporting

namespace Trial

variable {p : GroupPlugins ρ ω} {g : Group ρ ω} {u u' : Trial ρ ω} {es es' : List AttemptEvent}
  {f : Failure}

theorem Moves.of_hung (hm : u.Moves p g es u') (hung : .hung f ∈ es) :
    ∃ j a, u.phase = some (.reporting j a) ∧ g.hung? j u.attempt = some f := by
  cases hm with
  | idle => cases hung
  | reader logged threads hm => cases hm.side?_eq _ hung
  | writer logged threads hm => cases hm.side?_eq _ hung
  | driver ht =>
    obtain ⟨j, a, rfl, found⟩ := ht.of_hung hung
    exact ⟨j, a, rfl, found⟩

/-- What a driver captures in an attempt whose threads have ended, unless its group was stopped, is what
it has found in a report. -/
theorem HasEnded.hung_of_captures {phase phase' : DriverPhase ρ ω} {t t' : Attempt ρ ω}
    (h : HasEnded ⟨some phase, t⟩ es) (standing : Standing none ⟨some phase, t⟩)
    (ht : phase.Tends g t es' t' phase') (none_ : t.status.failure = none)
    (captured : t'.status.failure = some f) : .hung f ∈ es := by
  have stands := standing.held rfl
  rcases ht.captures none_ captured with ⟨j, a, n, rfl⟩ | ⟨j, a, rfl, -⟩ | ⟨j, a, n, r, rfl⟩
  · exact (h.owes rfl).1
  · cases stands.2
  · rcases stands.2 with (⟨-, stopped⟩ | ⟨-, -, failed⟩) | fresh
    · cases stopped
    · cases none_.symm.trans failed
    · have begun : t.threads.isSome = true := h.begun
      rw [fresh.1] at begun
      cases begun

theorem HasEnded.moves (h : u.HasEnded es) (calm : g.fatal = none) (standing : u.Standing g.fatal)
    (hm : u.Moves p g es' u') : u'.HasEnded (es ++ es') := by
  have grows := hm.grows
  have threads := standing.threads_eq hm h.begun h.ended
  have begun : u'.attempt.threads.isSome = true := threads ▸ h.begun
  have ended := (Attempt.isOver_of_threads_eq threads).trans h.ended
  rcases hm.of_isOver h.ended with rfl | ⟨phase, t', phase', hp, ht, rfl⟩
  · exact ⟨begun, ended, fun hf => List.mem_append_left _ (h.captured hf),
      fun hp => (h.owes hp).append _⟩
  · obtain ⟨_, t⟩ := u
    cases hp
    rw [calm] at standing
    refine ⟨begun, ended, fun {f} hf => List.mem_append_left _ ?_, fun {phase₁} held => ?_⟩
    · cases none_ : t.status.failure with
      | none => exact h.hung_of_captures standing ht none_ hf
      | some f' =>
        cases (grows.failure f' none_).symm.trans hf
        exact h.captured none_
    · cases DriverPhase.held_eq_some held
      exact ht.owes (h.owes rfl)

/-- An attempt without a report ahead stays so, and is not found to hang. -/
theorem IsUnreported.moves (h : u.IsUnreported) (standing : u.Standing g.fatal)
    (hm : u.Moves p g es u') : u'.IsUnreported ∧ ∀ f, .hung f ∉ es := by
  constructor
  · have threads := standing.threads_eq hm h.begun h.ended
    refine ⟨threads ▸ h.begun, (Attempt.isOver_of_threads_eq threads).trans h.ended, ?_⟩
    intro phase₁ held
    rcases hm.of_isOver h.ended with rfl | ⟨phase, t', phase', hp, ht, rfl⟩
    · exact h.aside held
    · cases DriverPhase.held_eq_some held
      exact ht.not_isReporting h.ended (h.aside hp)
  · intro f hung
    obtain ⟨j, a, hp, -⟩ := hm.of_hung hung
    exact h.aside hp trivial

end Trial

namespace Chronicle

variable {p : GroupPlugins ρ ω} {c c' : Chronicle ρ ω} {config : CoreConfig} {now : Int}
  {tasks : List (TaskSpec ρ ω)} {a d : Nat}

/-- A driver that is about to fail its attempt because it hangs has told so. -/
theorem Leads.owes (led : (start config now tasks).Leads p c) {u : Trial ρ ω}
    (hu : c.group.trial? a = some u) {phase : DriverPhase ρ ω} (held : u.phase = some phase) :
    phase.Owes (c.eventsOf a) := by
  refine led.trials (I := fun _ u es => ∀ phase, u.phase = some phase → phase.Owes es) ?_ ?_ ?_ hu _ held
  · rintro g j a _ ⟨⟩
    trivial
  · exact fun hi => hi
  · intro g u u' es es' owes hm phase held
    cases hm with
    | idle => exact (owes _ held).append _
    | reader => exact (owes _ held).append _
    | writer => exact (owes _ held).append _
    | driver ht =>
      cases DriverPhase.held_eq_some held
      exact ht.owes (owes _ rfl)

/-- As long as the group is not stopped, an attempt whose threads have ended captures nothing but that it
was found to hang. -/
theorem Leads.hasEnded (h : c.Leads p c') (steady : c.IsSteady) {u : Trial ρ ω}
    (hu : c.group.trial? a = some u) (ended : u.HasEnded (c.eventsOf a)) (calm : c'.group.fatal = none) :
    ∃ u', c'.group.trial? a = some u' ∧ u'.HasEnded (c'.eventsOf a) := by
  refine (h.keeps (P := fun c => c.group.fatal = none →
    ∃ u, c.group.trial? a = some u ∧ u.HasEnded (c.eventsOf a)) ?_ ?_ steady
    fun _ => ⟨u, hu, ended⟩).2 calm
  · intro c c' m steady before goes calm
    have steps := steady.sound.steps goes
    have calm' := steps.fatal_eq_none calm
    obtain ⟨u, hu, ended⟩ := before calm'
    obtain ⟨u', hu', moves⟩ := steps.trial_next steady.sound.holds hu
    refine ⟨u', hu', ?_⟩
    rw [eventsOf_step goes]
    exact ended.moves calm' (steady.known hu).1 moves
  · intro c f _ _ _ calm
    have some_ := Group.isSome_fatal_stop c.group f
    rw [show (c.group.stop f).fatal = none from calm] at some_
    cases some_

/-- An attempt without a report ahead is never found to hang. -/
theorem Leads.unhung (h : c.Leads p c') (steady : c.IsSteady) {u : Trial ρ ω}
    (hu : c.group.trial? a = some u) (unreported : u.IsUnreported)
    (unhung : ∀ f, .hung f ∉ c.eventsOf a) : ∀ f, .hung f ∉ c'.eventsOf a := by
  refine (h.keeps (P := fun c => (∃ u, c.group.trial? a = some u ∧ u.IsUnreported) ∧
    ∀ f, .hung f ∉ c.eventsOf a) ?_ ?_ steady ⟨⟨u, hu, unreported⟩, unhung⟩).2.2
  · rintro c c' m steady ⟨⟨u, hu, unreported⟩, unhung⟩ goes
    obtain ⟨u', hu', moves⟩ := (steady.sound.steps goes).trial_next steady.sound.holds hu
    obtain ⟨unreported', unhung'⟩ := unreported.moves (steady.known hu).1 moves
    refine ⟨⟨u', hu', unreported'⟩, fun f hf => ?_⟩
    rw [eventsOf_step goes] at hf
    exact (List.mem_append.mp hf).elim (unhung f) (unhung' f)
  · exact fun _ _ before => before

/-- A driver is about to find that its attempt hangs. -/
def FindsHung (c : Chronicle ρ ω) (a : Nat) (f : Failure) : Prop :=
  ∃ (d : Nat) (j : Job ρ ω) (t : Attempt ρ ω) (progress : TaskProgress),
    c.group.drivers[d]? = some (.reporting j a) ∧ c.group.attempts[a]? = some t ∧
    c.group.monitor.Expired c.group.now j.spec.task t.status progress ∧
    f = .taskHung j.spec.task progress.recordsRead (c.group.now - progress.progressedAt)

/-- That an attempt hangs is found at a time at which it has made no progress for too long. -/
theorem Leads.findsHung (h : c.Leads p c') (steady : c.IsSteady) {f : Failure}
    (begun : a < c.group.attempts.length) (unhung : .hung f ∉ c.eventsOf a)
    (hung : .hung f ∈ c'.eventsOf a) : ∃ c₁, c.Leads p c₁ ∧ c₁.Leads p c' ∧ c₁.FindsHung a f := by
  induction h with
  | refl => exact absurd hung unhung
  | @move c₁ c₂ m led goes ih =>
    have steady₁ := led.isSteady steady
    rw [eventsOf_step goes] at hung
    rcases List.mem_append.mp hung with before | found
    · obtain ⟨c₀, led₀, led₁, finds⟩ := ih before
      exact ⟨c₀, led₀, .move led₁ goes, finds⟩
    · obtain ⟨u, hu⟩ := Group.exists_trial (Nat.lt_of_lt_of_le begun (led.length_le steady))
      obtain ⟨u', -, moves⟩ := (steady₁.sound.steps goes).trial_next steady₁.sound.holds hu
      obtain ⟨j, b, hp, hung_⟩ := moves.of_hung found
      obtain ⟨hfound, keeper⟩ := Group.trial?_eq_some_iff.mp hu
      rw [hp] at keeper
      obtain ⟨⟨d, at_⟩, ha⟩ := (Group.keeper?_eq_some_iff steady₁.sound.holds).mp keeper
      cases ha
      obtain ⟨progress, expired, rfl⟩ := HangMonitor.look_hung_eq_some_iff.mp hung_
      exact ⟨c₁, led, .move .refl goes, d, j, u.attempt, progress, at_, hfound, expired, rfl⟩
  | stop f led going ih =>
    obtain ⟨c₀, led₀, led₁, finds⟩ := ih hung
    exact ⟨c₀, led₀, .stop f led₁ going, finds⟩

/-- What an attempt returns whose threads have ended without a failure. -/
theorem Leads.of_returned (h : c.Leads p c') (steady : c.IsSteady) {u : Trial ρ ω}
    (hu : c.group.trial? a = some u) (ended : u.HasEnded (c.eventsOf a)) (calm : c'.group.fatal = none)
    {r : Except Failure Unit} (returned : .returned r ∈ c'.eventsOf a) :
    (r = .ok () ∧ c'.group.Succeeded a) ∨ ∃ f, r = .error f ∧ .hung f ∈ c'.eventsOf a := by
  obtain ⟨u', hu', ended'⟩ := h.hasEnded steady hu ended calm
  have results := (((h.isSteady steady).known hu').2 r returned).2
  cases r with
  | ok =>
    exact .inl ⟨rfl, u'.attempt, (Group.trial?_eq_some_iff.mp hu').1, Attempt.HasSucceeded.state results⟩
  | error f =>
    rcases results with ⟨-, stopped⟩ | ⟨-, failed⟩
    · cases stopped.symm.trans calm
    · exact .inr ⟨f, rfl, ended'.captured failed⟩

/-- In a schedule that is fair to its driver, an attempt whose threads have ended comes to a result. -/
theorem IsDone.returns (done : c.IsDone a) (steady : c.IsSteady) {turn : Nat → GroupMove}
    (time : TimePasses turn) (fair : Recurs turn (.driver d)) (minds : c.Minds d a) :
    ∃ n, (course p c turn n).HasReturned a := by
  obtain ⟨k, -, returned | ⟨t, found, going⟩⟩ := leaves_off (n := 0) steady.sound time fair minds
  · exact ⟨k, returned⟩
  · obtain ⟨t', found', -, ended⟩ : (course p c turn k).IsDone a := by
      refine course_keeps (P := fun x => x.IsDone a) (Nat.zero_le k) (fun i _ ih goes => ?_) done
      have steady := steady.course (p := p) turn i
      exact ih.step steady.sound (fun hu => (steady.known hu).1) goes
    cases found.symm.trans found'
    cases going.symm.trans ended

/-- What becomes of an attempt whose threads have ended, and that has captured no failure by then. -/
structure EndsWellUnlessReported (p : GroupPlugins ρ ω) (c : Chronicle ρ ω) (a : Nat) : Prop where
  /-- The bodies of both plugins have come to a good end. -/
  bodies : BodiesEndWell (c.eventsOf a)
  /-- Unless its group is stopped, the attempt succeeds, or it fails because a report finds it to hang. -/
  result : ∀ {c' : Chronicle ρ ω} {r : Except Failure Unit}, c.Leads p c' → c'.group.fatal = none →
    .returned r ∈ c'.eventsOf a → (r = .ok () ∧ c'.group.Succeeded a) ∨
      ∃ f c₁, r = .error f ∧ c.Leads p c₁ ∧ c₁.Leads p c' ∧ c₁.FindsHung a f
  /-- It succeeds if its driver is not on the way to a report already. -/
  spared : (∀ {d : Nat} {phase : DriverPhase ρ ω}, c.group.drivers[d]? = some phase →
      phase.attempt? = some a → ¬ phase.IsReporting) →
    ∀ {c' : Chronicle ρ ω} {r : Except Failure Unit}, c.Leads p c' → c'.group.fatal = none →
      .returned r ∈ c'.eventsOf a → r = .ok () ∧ c'.group.Succeeded a
  /-- It comes to a result. -/
  returns : ∀ {d : Nat} {turn : Nat → GroupMove}, c.Minds d a → TimePasses turn →
    Recurs turn (.driver d) → ∃ n, (course p c turn n).HasReturned a

/-- **Nothing but the last report fails an attempt whose plugins came to a good end.** Take an attempt
whose threads have ended, and that has captured no failure and was not found to hang by then, in a group
that was not stopped. The bodies of both plugins have come to a good end. The attempt comes to a result in
every schedule that is fair to its driver. Unless the group is stopped, it succeeds, or a report finds
that it has made no progress for longer than the timeout; and it succeeds in any case, if the driver was
not asleep before a report, or at it, when the second of the threads ended. -/
theorem only_the_last_report_fails (p : GroupPlugins ρ ω) (config : CoreConfig) (now : Int)
    (tasks : List (TaskSpec ρ ω)) {c : Chronicle ρ ω} (led : (start config now tasks).Leads p c)
    {a : Nat} {t : Attempt ρ ω} (found : c.group.attempts[a]? = some t)
    (begun : t.threads.isSome = true) (ended : t.isOver = true) (none_ : t.status.failure = none)
    (calm : c.IsCalm a) : c.EndsWellUnlessReported p a := by
  have steady := led.isSteady (isSteady_start config now tasks)
  have hu := Group.trial?_of_attempt found
  have hasEnded : Trial.HasEnded ⟨c.group.keeper? a, t⟩ (c.eventsOf a) :=
    ⟨begun, ended, fun hf => absurd (none_.symm.trans hf) nofun, fun held => led.owes hu held⟩
  refine ⟨led.bodiesEndWell found begun ended none_, fun {c' r} h calm' returned => ?_,
    fun aside {c' r} h calm' returned => ?_,
    fun minds time fair => IsDone.returns ⟨t, found, begun, ended⟩ steady time fair minds⟩
  · refine (h.of_returned steady hu hasEnded calm' returned).imp_right ?_
    rintro ⟨f, rfl, hung⟩
    obtain ⟨c₁, led₁, led₂, finds⟩ :=
      h.findsHung steady (List.getElem?_eq_some_iff.mp found).1 (calm.2 f) hung
    exact ⟨f, c₁, rfl, led₁, led₂, finds⟩
  · refine (h.of_returned steady hu hasEnded calm' returned).resolve_right ?_
    rintro ⟨f, -, hung⟩
    refine h.unhung steady hu ⟨begun, ended, fun {phase} held => ?_⟩ calm.2 f hung
    obtain ⟨⟨d, at_⟩, ha⟩ := (Group.keeper?_eq_some_iff steady.sound.holds).mp held
    exact aside at_ ha

/-! ### A task whose plugins have nothing to do -/

/-- A task whose reader ends at once, and whose writer does when it is told so. -/
def brief : TaskSpec ScriptedReader ScriptedWriter := .ofScripts 0 [] [.receive none none]

/-- The driver takes some steps, and then both threads go to their ends. -/
def endsAfter (steps : Nat) : List GroupMove :=
  List.replicate steps (.driver 0) ++ List.replicate 7 (.reader 0) ++ List.replicate 9 (.writer 0)

/-- The threads have ended before the driver has looked for the first time. -/
def endedBefore : Chronicle ScriptedReader ScriptedWriter :=
  ((start {} 0 [brief]).run scripted (endsAfter 5)).get (by decide +kernel)

/-- The threads have ended while the driver sleeps. -/
def endedMeanwhile : Chronicle ScriptedReader ScriptedWriter :=
  ((start {} 0 [brief]).run scripted (endsAfter 6)).get (by decide +kernel)

/-- Whether the threads of the first attempt have ended without a failure, and nothing else has befallen
it. -/
def hasEndedCalmly (c : Chronicle ScriptedReader ScriptedWriter) : Bool :=
  c.group.fatal.isNone && (c.eventsOf 0).all (fun | .hung _ => false | _ => true) &&
    c.group.attempts[0]?.any fun t => t.threads.isSome && t.isOver && t.status.failure.isNone

theorem of_hasEndedCalmly {c : Chronicle ScriptedReader ScriptedWriter} (h : c.hasEndedCalmly = true) :
    c.IsCalm 0 ∧ ∃ t, c.group.attempts[0]? = some t ∧ t.threads.isSome = true ∧ t.isOver = true ∧
      t.status.failure = none := by
  obtain ⟨h, ended⟩ := Bool.and_eq_true_iff.mp h
  obtain ⟨fatal, unhung⟩ := Bool.and_eq_true_iff.mp h
  obtain ⟨t, found, ended⟩ := (Option.any_eq_true _ _).mp ended
  obtain ⟨ended, none_⟩ := Bool.and_eq_true_iff.mp ended
  obtain ⟨begun, ended⟩ := Bool.and_eq_true_iff.mp ended
  refine ⟨⟨Option.isNone_iff_eq_none.mp fatal, fun f hf => ?_⟩, t, found, begun, ended,
    Option.isNone_iff_eq_none.mp none_⟩
  exact nomatch List.all_eq_true.mp unhung _ hf

/-- An attempt whose threads have ended before the driver has looked comes to a result, and it can be no
other but that it succeeds. -/
theorem only_the_last_report_fails_endedBefore :
    (start {} 0 [brief]).run scripted (endsAfter 5) = some endedBefore ∧
      (∃ n, (course scripted endedBefore rounds n).HasReturned 0) ∧
      ∀ c' r, endedBefore.Leads scripted c' → c'.group.fatal = none → .returned r ∈ c'.eventsOf 0 →
        r = .ok () ∧ c'.group.Succeeded 0 := by
  have run_ : (start {} 0 [brief]).run scripted (endsAfter 5) = some endedBefore :=
    (Option.some_get _).symm
  obtain ⟨calm, t, found, begun, ended, none_⟩ :=
    of_hasEndedCalmly (show endedBefore.hasEndedCalmly = true by decide +kernel)
  have ends := only_the_last_report_fails scripted {} 0 [brief] (leads_of_run run_) found begun ended
    none_ calm
  have lone : endedBefore.group.drivers = [.watching ⟨brief, 0, 1, 1⟩ 0] := by rfl
  refine ⟨run_, ends.returns ⟨_, by rw [lone]; rfl, rfl⟩ isFair_rounds.time isFair_rounds.driver,
    fun c' r h calm' returned => ends.spared (fun {d phase} at_ _ => ?_) h calm' returned⟩
  rw [lone] at at_
  cases List.mem_singleton.mp (List.mem_of_getElem? at_)
  exact id

/-- The clock moves on by a little more than the timeout while the driver sleeps, and then the driver
reports its attempt and comes to the result. -/
def reportsLate : List GroupMove :=
  [.pass 172800001, .tick 100000000] ++ List.replicate 15 (.driver 0)

/-- **A completed attempt is found to hang.** With the default settings, the bodies of both plugins of an
attempt have come to a good end and it is not finished yet; then, with nothing else happening in the group
than that its driver wakes up, the attempt fails because it hangs. -/
theorem found_hung_after_the_end :
    ∃ (c' : Chronicle ScriptedReader ScriptedWriter) (t : Attempt ScriptedReader ScriptedWriter),
      CoreConfig.validate {} = .ok () ∧
      (start {} 0 [brief]).run scripted (endsAfter 6) = some endedMeanwhile ∧
      endedMeanwhile.group.attempts[0]? = some t ∧ t.isOver = true ∧ t.status.isFinished = false ∧
      BodiesEndWell (endedMeanwhile.eventsOf 0) ∧ endedMeanwhile.IsCalm 0 ∧
      endedMeanwhile.run scripted reportsLate = some c' ∧ c'.group.fatal = none ∧
      c'.group.Failed 0 (.taskHung 0 0 172800001) ∧
      .returned (.error (.taskHung 0 0 172800001)) ∈ c'.eventsOf 0 := by
  have run_ : (start {} 0 [brief]).run scripted (endsAfter 6) = some endedMeanwhile :=
    (Option.some_get _).symm
  obtain ⟨calm, t, found, begun, ended, none_⟩ :=
    of_hasEndedCalmly (show endedMeanwhile.hasEndedCalmly = true by decide +kernel)
  refine ⟨_, _, rfl, run_, rfl, rfl, rfl, (leads_of_run run_).bodiesEndWell found begun ended none_, calm,
    rfl, rfl, ⟨_, rfl, rfl, rfl⟩, ?_⟩
  exact List.mem_of_getElem? (i := 5) rfl

end Chronicle

end BatchSync
