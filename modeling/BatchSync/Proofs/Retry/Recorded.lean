import BatchSync.Proofs.Retry.Whereabouts

/-!
# What is told of timed attempts

What becomes of the attempts in a move, and what is told of it, is one of a few things
(`TimedRun.Alters`). So what was told agrees with what is known of the attempts
(`TimedHistory.Recorded`): the pool answers one attempt after the other, each calls the work at most
once and only when the pool took it, and each call ends at most once.
-/

namespace BatchSync

variable {α : Type}

namespace TimedRun

variable {r r' : TimedRun α} {now : Nanos} {m : TimedMove α} {e : Option (TimedEvent α)}

/-! ## What becomes known in a move -/

/-- What becomes of the attempts, and what is told of it. -/
inductive Alters (r : TimedRun α) : List (TimedAttempt α) → Option (TimedEvent α) → Prop
  | stay : Alters r r.attempts none
  | giveUp (i : Nat) : Alters r r.attempts (some (.timedOut i))
  | accept : Alters r (r.attempts ++ [.fresh true]) (some (.accepted r.attempts.length))
  | refuse : Alters r (r.attempts ++ [.fresh false]) (some (.rejected r.attempts.length))
  | call {i : Nat} (accepted : r.isAccepted i = true) (uncalled : r.hasCalled i = false) :
      Alters r (r.attempts.modify i .call) (some (.called i))
  | deliver {i : Nat} (outcome : Except Failure α) (called : r.hasCalled i = true)
      (going : r.hasEnded i = false) :
      Alters r (r.attempts.modify i (.deliver outcome)) (some (.delivered i outcome))
  | panic {i : Nat} (called : r.hasCalled i = true) (going : r.hasEnded i = false) :
      Alters r (r.attempts.modify i .drop) (some (.panicked i))
  /-- An attempt that never called the work is not waited for. -/
  | drop {i : Nat} (cancelled : r.isCancelled i = true) :
      Alters r (r.attempts.modify i .drop) none
  | cancel (i : Nat) : Alters r (r.attempts.modify i .cancel) (some (.cancelled i))

theorem Moves.alters (s : r.Sound) (h : r.Moves now m r' e) : r.Alters r'.attempts e := by
  cases h with
  | accept submits pools =>
    rw [← (s.length_of_submits submits).1]
    exact .accept
  | refuse submits pools =>
    rw [← (s.length_of_submits submits).1]
    exact .refuse
  | giveUp => exact .giveUp _
  | cancel at_ => exact .cancel _
  | @judge i outcome at_ =>
    obtain ⟨phase, events, eq, -⟩ := exists_judge_eq r i outcome
    rw [eq]
    exact .stay
  | call pools valid =>
    obtain ⟨accepted, uncalled, -⟩ := s.held _ (s.begun pools).1
    exact .call accepted uncalled
  | deliver pools called => exact .deliver _ called (s.running _ (s.endJob pools).1).2.1
  | panic pools called => exact .panic called (s.running _ (s.endJob pools).1).2.1
  | drop pools uncalled =>
    refine .drop ((s.running _ (s.endJob pools).1).2.2.resolve_left ?_)
    rw [uncalled]
    exact nofun
  | _ => exact .stay

variable {attempts : List (TimedAttempt α)}

theorem Alters.accepted_iff (h : r.Alters attempts e) (i : Nat) :
    (attempts[i]?).any TimedAttempt.accepted = true ↔
      r.isAccepted i = true ∨ e.bind TimedEvent.accepted? = some i := by
  cases h with
  | accept =>
    rw [any_getElem?_concat_iff rfl]
    exact or_congr_right Option.some_inj.symm
  | refuse =>
    rw [any_getElem?_concat rfl]
    exact (or_iff_left nofun).symm
  | stay => exact (or_iff_left nofun).symm
  | giveUp => exact (or_iff_left nofun).symm
  | _ =>
    rw [any_getElem?_modify]
    · exact (or_iff_left nofun).symm
    · exact fun _ => rfl

theorem Alters.called_iff (h : r.Alters attempts e) (i : Nat) :
    (attempts[i]?).any TimedAttempt.called = true ↔
      r.hasCalled i = true ∨ e.bind TimedEvent.called? = some i := by
  cases h with
  | call accepted uncalled =>
    rw [any_getElem?_modify_iff (fun _ => rfl) (lt_of_any_getElem? accepted)]
    exact or_congr_right Option.some_inj.symm
  | stay => exact (or_iff_left nofun).symm
  | giveUp => exact (or_iff_left nofun).symm
  | accept =>
    rw [any_getElem?_concat rfl]
    exact (or_iff_left nofun).symm
  | refuse =>
    rw [any_getElem?_concat rfl]
    exact (or_iff_left nofun).symm
  | _ =>
    rw [any_getElem?_modify]
    · exact (or_iff_left nofun).symm
    · exact fun _ => rfl

/-- An attempt that has ended stays so. -/
theorem Alters.ended (h : r.Alters attempts e) {i : Nat}
    (ended : r.hasEnded i = true ∨ e.bind TimedEvent.ended? = some i) :
    (attempts[i]?).any (fun a => a.delivered.isSome || a.dropped) = true := by
  cases h with
  | deliver outcome called going =>
    rw [any_getElem?_modify_iff (fun _ => rfl) (lt_of_any_getElem? called)]
    exact ended.imp_right Option.some.inj
  | panic called going =>
    rw [any_getElem?_modify_iff (fun _ => Bool.or_true _) (lt_of_any_getElem? called)]
    exact ended.imp_right Option.some.inj
  | drop cancelled =>
    rw [any_getElem?_modify_iff (fun _ => Bool.or_true _) (lt_of_any_getElem? cancelled)]
    exact .inl (ended.resolve_right nofun)
  | stay => exact ended.resolve_right nofun
  | giveUp => exact ended.resolve_right nofun
  | accept =>
    rw [any_getElem?_concat rfl]
    exact ended.resolve_right nofun
  | refuse =>
    rw [any_getElem?_concat rfl]
    exact ended.resolve_right nofun
  | _ =>
    rw [any_getElem?_modify]
    · exact ended.resolve_right nofun
    · exact fun _ => rfl

/-- The pool answers one attempt after the other. -/
theorem Alters.range_length (h : r.Alters attempts e) :
    List.range attempts.length =
      List.range r.attempts.length ++ (e.bind TimedEvent.answered?).toList := by
  cases h with
  | accept => rw [List.length_append, List.length_singleton, List.range_succ]; rfl
  | refuse => rw [List.length_append, List.length_singleton, List.range_succ]; rfl
  | stay => exact (List.append_nil _).symm
  | giveUp => exact (List.append_nil _).symm
  | _ => rw [List.length_modify]; exact (List.append_nil _).symm

/-- An attempt that calls the work was accepted, and has not called it before. -/
theorem Alters.new_call (h : r.Alters attempts e) {i : Nat}
    (called : e.bind TimedEvent.called? = some i) :
    r.isAccepted i = true ∧ r.hasCalled i = false := by
  cases h with
  | call accepted uncalled => cases called; exact ⟨accepted, uncalled⟩
  | _ => cases called

/-- What an attempt delivers, or that it panics, comes of its call of the work, and once. -/
theorem Alters.new_end (h : r.Alters attempts e) {i : Nat}
    (ended : e.bind TimedEvent.ended? = some i) :
    r.hasCalled i = true ∧ r.hasEnded i = false := by
  cases h with
  | deliver outcome called going => cases ended; exact ⟨called, going⟩
  | panic called going => cases ended; exact ⟨called, going⟩
  | _ => cases ended

/-- An attempt that the pool takes is a new one. -/
theorem Alters.new_acceptance (h : r.Alters attempts e) {i : Nat}
    (accepted : e.bind TimedEvent.accepted? = some i) : i = r.attempts.length := by
  cases h with
  | accept => cases accepted; rfl
  | _ => cases accepted

/-- An attempt that the pool refuses is not accepted. -/
theorem Alters.refused {i : Nat} (h : r.Alters attempts (some (.rejected i))) :
    i < attempts.length ∧ (attempts[i]?).any TimedAttempt.accepted = false := by
  cases h with
  | refuse =>
    rw [List.length_append, any_getElem?_concat rfl, List.getElem?_eq_none (Nat.le_refl _)]
    exact ⟨Nat.lt_succ_self _, rfl⟩

theorem Alters.length_le (h : r.Alters attempts e) : r.attempts.length ≤ attempts.length := by
  have lengths := congrArg List.length h.range_length
  simp only [List.length_range, List.length_append] at lengths
  omega

end TimedRun

namespace TimedHistory

variable {h : TimedHistory α} {now : Nanos} {m : TimedMove α} {r : TimedRun α}
  {e : Option (TimedEvent α)}

/-! ## What was told -/

/-- The attempts that are read off what was told. -/
def indexes (f : TimedEvent α → Option Nat) (h : TimedHistory α) : List Nat := h.told.filterMap f

/-- The attempts that the pool answered. -/
def answered (h : TimedHistory α) : List Nat := h.indexes TimedEvent.answered?

/-- The attempts that called the work, as often as they did. -/
def called (h : TimedHistory α) : List Nat := h.indexes TimedEvent.called?

/-- The attempts whose call of the work delivered a result or panicked, as often as that happened. -/
def ended (h : TimedHistory α) : List Nat := h.indexes TimedEvent.ended?

theorem indexes_add (f : TimedEvent α → Option Nat) (h : TimedHistory α) (r : TimedRun α)
    (e : Option (TimedEvent α)) : (h.add r e).indexes f = h.indexes f ++ (e.bind f).toList := by
  unfold indexes add
  rw [List.filterMap_append]
  cases e with
  | none => rfl
  | some e =>
    rw [Option.toList_some, List.filterMap_cons]
    cases hf : f e <;> simp [hf]

/-- What was told agrees with what is known of the attempts. -/
structure Recorded (h : TimedHistory α) : Prop where
  answered_eq : h.answered = List.range h.run.attempts.length
  accepted_iff : ∀ i, i ∈ h.indexes TimedEvent.accepted? ↔ h.run.isAccepted i = true
  refused : ∀ i, .rejected i ∈ h.told → i < h.run.attempts.length ∧ h.run.isAccepted i = false
  called_iff : ∀ i, i ∈ h.called ↔ h.run.hasCalled i = true
  called_nodup : h.called.Nodup
  called_accepted : ∀ i, h.run.hasCalled i = true → h.run.isAccepted i = true
  ended : ∀ i ∈ h.ended, h.run.hasEnded i = true
  ended_nodup : h.ended.Nodup
  /-- The result of an attempt, or its panic, comes after its call of the work. -/
  called_before : ∀ older e newer i, h.told = older ++ e :: newer → e.ended? = some i →
    .called i ∈ older

theorem recorded_start (policy : RetryPolicy) (timeout : Nat) (pool : RetryPool (Option Nat)) :
    (start policy timeout pool : TimedHistory α).Recorded where
  answered_eq := rfl
  accepted_iff i := ⟨nofun, nofun⟩
  refused := nofun
  called_iff i := ⟨nofun, nofun⟩
  called_nodup := List.nodup_nil
  called_accepted := nofun
  ended := nofun
  ended_nodup := List.nodup_nil
  called_before := by
    intro older e newer i told
    simp [start] at told

theorem nodup_append_toList {l : List Nat} {i? : Option Nat} (nodup : l.Nodup)
    (new : ∀ i, i? = some i → i ∉ l) : (l ++ i?.toList).Nodup := by
  cases i? with
  | none => simpa using nodup
  | some i =>
    refine List.nodup_append.mpr ⟨nodup, by simp, ?_⟩
    rintro j hj k hk rfl
    obtain rfl : j = i := by simpa using hk
    exact new j rfl hj

theorem mem_called_iff (h : TimedHistory α) (i : Nat) : i ∈ h.called ↔ .called i ∈ h.told := by
  unfold called indexes
  rw [List.mem_filterMap]
  constructor
  · rintro ⟨e, he, eq⟩
    cases e <;> cases eq
    exact he
  · exact fun he => ⟨_, he, rfl⟩

theorem Recorded.add (c : h.Recorded) (s : h.run.Sound) (hm : h.run.Moves now m r e) :
    (h.add r e).Recorded := by
  have alters := hm.alters s
  have mem_add : ∀ (f : TimedEvent α → Option Nat) (i : Nat),
      i ∈ (h.add r e).indexes f ↔ i ∈ h.indexes f ∨ e.bind f = some i := by
    intro f i
    rw [indexes_add, List.mem_append, Option.mem_toList]
  refine ⟨?_, ?_, ?_, ?_, ?_, ?_, ?_, ?_, ?_⟩
  · rw [answered, indexes_add]
    exact (congrArg (· ++ _) c.answered_eq).trans alters.range_length.symm
  · intro i
    rw [mem_add, c.accepted_iff]
    exact (alters.accepted_iff i).symm
  · intro i hi
    rcases List.mem_append.mp hi with old | new
    · obtain ⟨lt, refused⟩ := c.refused i old
      refine ⟨Nat.lt_of_lt_of_le lt alters.length_le, Bool.eq_false_iff.mpr fun accepted => ?_⟩
      rcases (alters.accepted_iff i).mp accepted with was_accepted | new
      · exact Bool.eq_false_iff.mp refused was_accepted
      · exact Nat.ne_of_lt lt (alters.new_acceptance new)
    · obtain rfl := Option.mem_toList.mp new
      exact alters.refused
  · intro i
    rw [called, mem_add, ← called, c.called_iff]
    exact (alters.called_iff i).symm
  · rw [called, indexes_add]
    refine nodup_append_toList c.called_nodup fun i new => ?_
    rw [← called, c.called_iff, (alters.new_call new).2]
    exact nofun
  · intro i hi
    rcases (alters.called_iff i).mp hi with old | new
    · exact (alters.accepted_iff i).mpr (.inl (c.called_accepted i old))
    · exact (alters.accepted_iff i).mpr (.inl (alters.new_call new).1)
  · intro i hi
    exact alters.ended (((mem_add _ i).mp hi).imp_left (c.ended i))
  · rw [TimedHistory.ended, indexes_add]
    refine nodup_append_toList c.ended_nodup fun i new old => ?_
    have going := (alters.new_end new).2
    rw [c.ended i old] at going
    cases going
  · intro older e' newer i told ended
    rcases List.eq_nil_or_concat newer with rfl | ⟨newer, last, rfl⟩
    · cases e with
      | none => exact c.called_before older e' [] i (by simpa [add] using told) ended
      | some e =>
        obtain ⟨rfl, eq⟩ := List.append_inj' told rfl
        cases eq
        exact (mem_called_iff h i).mp ((c.called_iff i).mpr (alters.new_end ended).1)
    · cases e with
      | none =>
        exact c.called_before older e' (newer.concat last) i (by simpa [add] using told) ended
      | some e =>
        rw [List.concat_eq_append, ← List.cons_append, ← List.append_assoc] at told
        exact c.called_before older e' newer i (List.append_inj' told rfl).1 ended

/-- Of no attempt that was rejected it is told that it called the work. -/
theorem Recorded.refused_uncalled (recorded : h.Recorded) (i : Nat) (refused : .rejected i ∈ h.told) :
    .called i ∉ h.told := by
  intro called
  have accepted := recorded.called_accepted i
    ((recorded.called_iff i).mp ((mem_called_iff h i).mpr called))
  rw [(recorded.refused i refused).2] at accepted
  cases accepted

end TimedHistory

end BatchSync
