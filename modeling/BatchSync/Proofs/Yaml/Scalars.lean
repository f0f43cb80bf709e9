import BatchSync.Proofs.Json.Unambiguous
import BatchSync.Yaml.Scalar

/-!
# Scalars of JSON read as YAML

A JSON string is a YAML scalar in double quotes as long as no character in it is out of place in a YAML
document and none ends a line (`Lies`); what JSON escapes is escaped the same way. Numbers, truth values
and the absent value are plain scalars inside brackets (`IsPlainWord`).

1. `quotedPart?_escapeChar` reads one character back, and `readQuoted?_flatMap` a whole string. Blanks
   are a gap to YAML, so a string is read in parts.
2. `readPlain?_of_isPlainWord` reads a plain scalar up to the comma or the bracket behind it.
-/

namespace BatchSync.Yaml

open BatchSync.Text BatchSync.Json

/-! ## Moving on -/

theorem octetCount_append (a b : List Char) : octetCount (a ++ b) = octetCount a + octetCount b := by
  induction a with
  | nil => exact (Nat.zero_add _).symm
  | cons c a ih =>
    rw [List.cons_append, octetCount, ih, octetCount, Nat.add_assoc]

namespace Cursor

/-- The cursor behind a text that ends no line, where the rest begins. -/
def after (c : Cursor) (text rest : List Char) : Cursor :=
  ⟨rest, c.index + octetCount text, c.line, c.column + text.length⟩

variable {c : Cursor} {text rest : List Char}

theorem advance_eq_after (eq : c.rest = text ++ rest) {n : Nat} (length : text.length = n) :
    c.advance n = c.after text rest := by
  subst length
  unfold advance after
  rw [eq, List.drop_left, List.take_left]

theorem after_after (a r b r' : List Char) : (c.after a r).after b r' = c.after (a ++ b) r' := by
  unfold after
  rw [octetCount_append, List.length_append, ← Nat.add_assoc, ← Nat.add_assoc]

/-- A cursor is behind nothing where it stands. -/
theorem after_nil (eq : c.rest = rest) : c.after [] rest = c := by
  subst eq
  rfl

theorem isAt_of_rest {d : Char} (eq : c.rest = d :: rest) (m : Char) : c.isAt m = (d == m) := by
  unfold isAt peek?
  rw [eq, List.head?_cons]
  rfl

end Cursor

/-! ## Characters inside quotes -/

/-- What is said of each character of a text is decided along the text, not over all characters. -/
instance decidableForallMem (p : Char → Prop) [DecidablePred p] (cs : List Char) :
    Decidable (∀ d ∈ cs, p d) := List.decidableBAll p cs

/-- Whether a character of a JSON string stands on a line of a YAML document: JSON escapes it, or it is
printable and ends no line. -/
def Lies (c : Char) : Prop := c.toNat < 32 ∨ (isPrintable c = true ∧ isBreak c = false)

instance (c : Char) : Decidable (Lies c) := by unfold Lies; infer_instance

/-- The code of a control character, as YAML reads it. -/
theorem codeChar?_control {n : Nat} (lt : n < 32) :
    codeChar? ['0', '0', hexDigit (n / 16), hexDigit (n % 16)] = some (Char.ofNat n) := by
  have zero : hexValue? '0' = some 0 := hexValue?_hexDigit (by decide : 0 < 16)
  have value : 16 * (16 * (16 * (16 * 0 + 0) + 0) + n / 16) + n % 16 = n := by omega
  unfold codeChar?
  simp only [List.foldlM_cons, List.foldlM_nil, zero, hexValue?_hexDigit (show n / 16 < 16 by omega),
    hexValue?_hexDigit (show n % 16 < 16 by omega), Option.map_some, Option.bind_eq_bind,
    Option.bind_some, Option.pure_def, value]
  exact if_neg (by omega)

variable {c : Cursor} {text rest tail : List Char} {fuel : Nat}

/-- A character is read back from what stands for it in a string, unless it is a gap to YAML. -/
theorem quotedPart?_escapeChar {d : Char} (lies : Lies d) (notBlank : d ≠ ' ')
    (eq : c.rest = escapeChar d ++ rest) :
    quotedPart? false (fuel + 1) text c =
      quotedPart? false fuel (text ++ [d]) (c.after (escapeChar d) rest) := by
  have two : ∀ {a b : Char}, c.rest = a :: b :: rest → c.advance 2 = c.after [a, b] rest :=
    fun eq => Cursor.advance_eq_after eq rfl
  unfold escapeChar at eq ⊢
  split_ifs at eq ⊢ with quote backslash backspace tab newline feed return_ control
  · rw [quotedPart?, eq, quote, ← two eq]; rfl
  · rw [quotedPart?, eq, backslash, ← two eq]; rfl
  · rw [quotedPart?, eq, backspace, ← two eq]; rfl
  · rw [quotedPart?, eq, tab, ← two eq]; rfl
  · rw [quotedPart?, eq, newline, ← two eq]; rfl
  · rw [quotedPart?, eq, feed, ← two eq]; rfl
  · rw [quotedPart?, eq, return_, ← two eq]; rfl
  · have code := codeChar?_control control
    rw [Char.ofNat_toNat] at code
    rw [← Cursor.advance_eq_after eq rfl, quotedPart?, eq]
    simp [isSpace, isBreak, escape?, codeLength?, code]
  · obtain ⟨-, notBreak⟩ := lies.resolve_left control
    rw [quotedPart?, eq, ← Cursor.advance_eq_after eq rfl]
    simp [isSpace, notBlank, tab, notBreak, quote, backslash]

/-! ## Parts and gaps -/

/-- What a part of a string ends at: a blank or the closing quote. -/
def EndsPart (rest : List Char) : Prop := rest.head? = some ' ' ∨ rest.head? = some '"'

theorem length_escapeChar_pos (d : Char) : 0 < (escapeChar d).length := by
  unfold escapeChar
  split_ifs <;> exact Nat.zero_lt_succ _

theorem length_le_flatMap_escapeChar (part : List Char) :
    part.length ≤ (part.flatMap escapeChar).length := by
  induction part with
  | nil => exact Nat.le_refl 0
  | cons d part ih =>
    have pos := length_escapeChar_pos d
    rw [List.flatMap_cons, List.length_append, List.length_cons]
    omega

/-- A part without blanks is read back. -/
theorem quotedPart?_flatMap {part : List Char} (lie : ∀ d ∈ part, Lies d)
    (noBlank : ∀ d ∈ part, d ≠ ' ') (ends : EndsPart rest)
    (eq : c.rest = part.flatMap escapeChar ++ rest) (enough : part.length < fuel) :
    quotedPart? false fuel text c =
      some (text ++ part, c.after (part.flatMap escapeChar) rest, false) := by
  induction part generalizing c text fuel with
  | nil =>
    obtain ⟨fuel, rfl⟩ := Nat.exists_eq_add_of_lt enough
    have eq : c.rest = rest := eq
    rw [List.append_nil, List.flatMap_nil, Cursor.after_nil eq]
    cases rest with
    | nil => rcases ends with ends | ends <;> cases ends
    | cons e rest =>
      rw [quotedPart?, eq]
      rcases ends with ends | ends <;> cases ends <;> rfl
  | cons d part ih =>
    obtain ⟨fuel, rfl⟩ := Nat.exists_eq_add_of_lt enough
    rw [List.flatMap_cons, List.append_assoc] at eq
    rw [quotedPart?_escapeChar (lie d List.mem_cons_self) (noBlank d List.mem_cons_self) eq,
      ih (fun e mem => lie e (List.mem_cons_of_mem d mem))
        (fun e mem => noBlank e (List.mem_cons_of_mem d mem)) rfl (by rw [List.length_cons]; omega),
      Cursor.after_after, List.append_assoc, List.flatMap_cons]
    rfl

/-- A gap without a line break is the blanks in it. -/
theorem readGap?_replicate {n : Nat} {blanks : List Char}
    (notBlank : ∀ d ∈ rest.head?, isSpace d = false ∧ isBreak d = false)
    (eq : c.rest = List.replicate n ' ' ++ rest) (enough : n < fuel) :
    Gap.read? 0 fuel ⟨blanks, [], [], false⟩ c =
      some (⟨blanks ++ List.replicate n ' ', [], [], false⟩,
        c.after (List.replicate n ' ') rest) := by
  induction n generalizing c blanks fuel with
  | zero =>
    obtain ⟨fuel, rfl⟩ := Nat.exists_eq_add_of_lt enough
    have eq : c.rest = rest := eq
    rw [List.replicate_zero, List.append_nil, Cursor.after_nil eq, Gap.read?, Cursor.peek?, eq]
    cases rest with
    | nil => rfl
    | cons d rest =>
      obtain ⟨space, break_⟩ := notBlank d rfl
      simp [space, break_]
  | succ n ih =>
    obtain ⟨fuel, rfl⟩ := Nat.exists_eq_add_of_lt enough
    have eq : c.rest = [' '] ++ (List.replicate n ' ' ++ rest) := eq
    have moved : c.advance 1 = c.after [' '] _ := Cursor.advance_eq_after eq rfl
    rw [Gap.read?, Cursor.peek?, moved, eq]
    show Gap.read? 0 (n + 1 + fuel) ⟨blanks ++ [' '], [], [], false⟩ _ = _
    rw [ih rfl (by omega), Cursor.after_after, List.append_assoc, List.replicate_succ]
    rfl

/-- A text has no blank, or it goes on behind its first blanks. -/
theorem exists_first_blanks (cs : List Char) :
    (∀ d ∈ cs, d ≠ ' ') ∨ ∃ part n more, cs = part ++ (List.replicate (n + 1) ' ' ++ more) ∧
      (∀ d ∈ part, d ≠ ' ') ∧ ∀ d ∈ more.head?, d ≠ ' ' := by
  induction cs with
  | nil => exact .inl nofun
  | cons c cs ih =>
    by_cases blank : c = ' '
    · subst blank
      -- A blank joins the blanks that the rest begins with; in front of a part it stands alone.
      rcases ih with none_ | ⟨_ | ⟨d, part⟩, n, more, rfl, noBlank, ahead⟩
      · exact .inr ⟨[], 0, cs, rfl, nofun, fun d mem => none_ d (List.mem_of_mem_head? mem)⟩
      · exact .inr ⟨[], n + 1, more, rfl, nofun, ahead⟩
      · refine .inr ⟨[], 0, _, rfl, nofun, ?_⟩
        rintro _ ⟨⟩
        exact noBlank d List.mem_cons_self
    · rcases ih with none_ | ⟨part, n, more, rfl, noBlank, ahead⟩
      · exact .inl (List.forall_mem_cons.mpr ⟨blank, none_⟩)
      · exact .inr ⟨c :: part, n, more, rfl, List.forall_mem_cons.mpr ⟨blank, noBlank⟩, ahead⟩

theorem flatMap_escapeChar_replicate (n : Nat) :
    (List.replicate n ' ').flatMap escapeChar = List.replicate n ' ' := by
  induction n with
  | zero => rfl
  | succ n ih =>
    rw [List.replicate_succ, List.flatMap_cons, ih]
    rfl

/-- What stands for a character other than a blank begins with neither a blank nor a line break. -/
theorem head?_escapeChar {d : Char} (lies : Lies d) (notBlank : d ≠ ' ') :
    ∃ e es, escapeChar d = e :: es ∧ isSpace e = false ∧ isBreak e = false := by
  unfold escapeChar
  split_ifs with quote backslash backspace tab newline feed return_ control
  · exact ⟨_, _, rfl, rfl, rfl⟩
  · exact ⟨_, _, rfl, rfl, rfl⟩
  · exact ⟨_, _, rfl, rfl, rfl⟩
  · exact ⟨_, _, rfl, rfl, rfl⟩
  · exact ⟨_, _, rfl, rfl, rfl⟩
  · exact ⟨_, _, rfl, rfl, rfl⟩
  · exact ⟨_, _, rfl, rfl, rfl⟩
  · exact ⟨_, _, rfl, rfl, rfl⟩
  · obtain ⟨-, notBreak⟩ := lies.resolve_left control
    refine ⟨_, _, rfl, ?_, notBreak⟩
    simp [isSpace, notBlank, tab]

/-- Before more of a string, and before its closing quote, stands neither a blank nor a line break, unless
it goes on with a blank. -/
theorem head?_flatMap_escapeChar {cs : List Char} (lie : ∀ d ∈ cs, Lies d)
    (ahead : ∀ d ∈ cs.head?, d ≠ ' ') :
    ∀ e ∈ (cs.flatMap escapeChar ++ '"' :: tail).head?, isSpace e = false ∧ isBreak e = false := by
  cases cs with
  | nil =>
    rintro _ ⟨⟩
    exact ⟨rfl, rfl⟩
  | cons d cs =>
    obtain ⟨e, es, first, space, break_⟩ := head?_escapeChar (lie d List.mem_cons_self) (ahead d rfl)
    rw [List.flatMap_cons, first]
    rintro _ ⟨⟩
    exact ⟨space, break_⟩

theorem readQuoted?_of_column (inLine : c.column ≠ 0) (notEnd : c.rest ≠ []) :
    readQuoted? false (fuel + 1) text c =
      match quotedPart? false (c.rest.length + 1) text c with
      | none => none
      | some (text, c, joined) =>
        if c.isAt '"' then some (text, c.advance 1)
        else
          match Gap.read? 0 (c.rest.length + 1) ⟨[], [], [], joined⟩ c with
          | none => none
          | some (gap, c) => readQuoted? false fuel (text ++ gap.text) c := by
  rw [readQuoted?]
  exact if_neg (by simp [Cursor.atDocumentMark, Cursor.atMark, Cursor.atEnd, inLine, notEnd])

/-- A string without blanks is read back at once. -/
theorem readQuoted?_of_noBlank {cs : List Char} (lie : ∀ d ∈ cs, Lies d) (noBlank : ∀ d ∈ cs, d ≠ ' ')
    (inLine : c.column ≠ 0) (eq : c.rest = cs.flatMap escapeChar ++ '"' :: tail) :
    readQuoted? false (fuel + 1) text c =
      some (text ++ cs, c.after (cs.flatMap escapeChar ++ ['"']) tail) := by
  have long := length_le_flatMap_escapeChar cs
  have moved : (c.after (cs.flatMap escapeChar) ('"' :: tail)).advance 1 =
      c.after (cs.flatMap escapeChar ++ ['"']) tail := by
    rw [← Cursor.after_after _ ('"' :: tail)]
    exact Cursor.advance_eq_after rfl rfl
  rw [readQuoted?_of_column inLine (by rw [eq]; exact List.append_ne_nil_of_right_ne_nil _ nofun),
    quotedPart?_flatMap lie noBlank (.inr rfl) eq (by rw [eq, List.length_append]; omega), ← moved]
  rfl

/-- The first part of a string and the blanks behind it are read. -/
theorem readQuoted?_of_blanks {part more : List Char} {n : Nat} (partLies : ∀ d ∈ part, Lies d)
    (moreLies : ∀ d ∈ more, Lies d) (noBlank : ∀ d ∈ part, d ≠ ' ') (ahead : ∀ d ∈ more.head?, d ≠ ' ')
    (inLine : c.column ≠ 0) (eq : c.rest = (part ++ (List.replicate (n + 1) ' ' ++ more)).flatMap
      escapeChar ++ '"' :: tail) :
    readQuoted? false (fuel + 1) text c =
      readQuoted? false fuel (text ++ part ++ List.replicate (n + 1) ' ')
        (c.after (part.flatMap escapeChar ++ List.replicate (n + 1) ' ')
          (more.flatMap escapeChar ++ '"' :: tail)) := by
  have long := length_le_flatMap_escapeChar part
  rw [List.flatMap_append, List.flatMap_append, flatMap_escapeChar_replicate, List.append_assoc,
    List.append_assoc] at eq
  have head : ∀ e ∈ (more.flatMap escapeChar ++ '"' :: tail).head?, isSpace e = false ∧
      isBreak e = false := head?_flatMap_escapeChar moreLies ahead
  generalize more.flatMap escapeChar ++ '"' :: tail = later at eq head ⊢
  have blanks : Gap.read? 0 ((List.replicate (n + 1) ' ' ++ later).length + 1) ⟨[], [], [], false⟩
      (c.after (part.flatMap escapeChar) (List.replicate (n + 1) ' ' ++ later)) = _ :=
    readGap?_replicate head rfl (by
      rw [List.length_append, List.length_replicate]
      exact Nat.lt_succ_of_le (Nat.le_add_right _ _))
  rw [readQuoted?_of_column inLine (by rw [eq]; exact List.append_ne_nil_of_right_ne_nil _ nofun),
    quotedPart?_flatMap partLies noBlank (.inl rfl) eq (by rw [eq, List.length_append]; omega),
    ← Cursor.after_after _ (List.replicate (n + 1) ' ' ++ later)]
  show (match Gap.read? 0 ((List.replicate (n + 1) ' ' ++ later).length + 1) ⟨[], [], [], false⟩ _ with
    | none => none
    | some (gap, c) => readQuoted? false fuel _ c) = _
  rw [blanks]
  rfl

/-- A string is read back up to its closing quote, part by part. -/
theorem readQuoted?_flatMap {cs : List Char} (lie : ∀ d ∈ cs, Lies d) (inLine : c.column ≠ 0)
    (eq : c.rest = cs.flatMap escapeChar ++ '"' :: tail) (enough : cs.length < fuel) :
    readQuoted? false fuel text c =
      some (text ++ cs, c.after (cs.flatMap escapeChar ++ ['"']) tail) := by
  -- A turn of the reader takes a part and the blanks behind it, so the fuel is what goes down by one.
  induction fuel generalizing c text cs with
  | zero => exact absurd enough (Nat.not_lt_zero _)
  | succ fuel ih =>
    rcases exists_first_blanks cs with none_ | ⟨part, n, more, rfl, noBlank, ahead⟩
    · exact readQuoted?_of_noBlank lie none_ inLine eq
    · obtain ⟨partLies, restLies⟩ := List.forall_mem_append.mp lie
      have moreLies := (List.forall_mem_append.mp restLies).2
      have further : (c.after (part.flatMap escapeChar ++ List.replicate (n + 1) ' ')
          (more.flatMap escapeChar ++ '"' :: tail)).column ≠ 0 :=
        Nat.ne_of_gt (Nat.add_pos_left (Nat.pos_of_ne_zero inLine) _)
      rw [readQuoted?_of_blanks partLies moreLies noBlank ahead inLine eq, ih moreLies further rfl
        (by simp only [List.length_append, List.length_replicate] at enough; omega)]
      simp only [Cursor.after_after, List.append_assoc, List.flatMap_append,
        flatMap_escapeChar_replicate]

/-! ## Plain scalars -/

/-- Whether a character is a digit or a lower-case letter. -/
def isDigitOrLower (c : Char) : Bool := isDigit c || ('a' ≤ c && c ≤ 'z')

/-- Whether a character may stand in a number or in the name of another plain value. -/
def isPlainChar (c : Char) : Bool := isDigitOrLower c || c == '-' || c == '+' || c == '.'

/-- A number without a sign or the name of another plain value. -/
def IsUnsigned (text : List Char) : Prop :=
  ∃ d ds, text = d :: ds ∧ isDigitOrLower d = true ∧ ∀ e ∈ ds, isPlainChar e = true

/-- A number or the name of another plain value: a minus sign may stand before it. -/
def IsPlainWord (text : List Char) : Prop :=
  ∃ sign d ds, (sign = [] ∨ sign = ['-']) ∧ text = sign ++ d :: ds ∧ isDigitOrLower d = true ∧
    ∀ e ∈ ds, isPlainChar e = true

/-- Whether a comma or a bracket comes next. -/
def Closes (rest : List Char) : Prop := ∃ m more, rest = m :: more ∧ isFlowMark m = true

theorem isPlainChar_of_isDigitOrLower {d : Char} (word : isDigitOrLower d = true) :
    isPlainChar d = true := by
  simp [isPlainChar, word]

/-- A character of a plain word is none of those that end a plain scalar. -/
theorem goesOn_of_isPlainChar {d : Char} (plain : isPlainChar d = true) :
    isSpace d = false ∧ isBreak d = false ∧ isFlowMark d = false ∧ d ≠ ':' := by
  have ne : ∀ m, isPlainChar m = false → d ≠ m := fun m => ne_of_test plain
  refine ⟨?_, ?_, ?_, ne ':' (by decide)⟩
  · simp [isSpace, ne ' ' (by decide), ne '\t' (by decide)]
  · simp [isBreak, ne '\n' (by decide), ne '\r' (by decide), ne '\u0085' (by decide),
      ne '\u2028' (by decide), ne '\u2029' (by decide)]
  · simp [isFlowMark, ne ',' (by decide), ne '[' (by decide), ne ']' (by decide),
      ne '\x7b' (by decide), ne '\x7d' (by decide)]

theorem IsPlainWord.chars {word : List Char} (h : IsPlainWord word) :
    ∀ d ∈ word, isPlainChar d = true := by
  obtain ⟨sign, d, ds, sign_eq, rfl, first, others⟩ := h
  have sign_plain : ∀ e ∈ sign, isPlainChar e = true := by
    rcases sign_eq with rfl | rfl
    · exact nofun
    · exact fun e mem => List.mem_singleton.mp mem ▸ rfl
  exact List.forall_mem_append.mpr ⟨sign_plain,
    List.forall_mem_cons.mpr ⟨isPlainChar_of_isDigitOrLower first, others⟩⟩

theorem IsPlainWord.ne_nil {word : List Char} (h : IsPlainWord word) : word ≠ [] := by
  obtain ⟨sign, d, ds, -, rfl, -⟩ := h
  exact List.append_ne_nil_of_right_ne_nil _ (List.cons_ne_nil d ds)

theorem Closes.isFlowMark_cases (closes : Closes rest) :
    ∃ m more, rest = m :: more ∧ (m = ',' ∨ m = '[' ∨ m = ']' ∨ m = '\x7b' ∨ m = '\x7d') := by
  obtain ⟨m, more, rfl, mark⟩ := closes
  refine ⟨m, more, rfl, ?_⟩
  simpa [isFlowMark, or_assoc] using mark

theorem plainRun?_append {word : List Char} (chars : ∀ d ∈ word, isPlainChar d = true)
    (closes : Closes rest) : plainRun? true (word ++ rest) = some word.length := by
  induction word with
  | nil =>
    obtain ⟨m, more, rfl, mark⟩ := closes.isFlowMark_cases
    rcases mark with rfl | rfl | rfl | rfl | rfl <;> rfl
  | cons d word ih =>
    obtain ⟨space, break_, mark, colon⟩ := goesOn_of_isPlainChar (chars d List.mem_cons_self)
    rw [List.cons_append, plainRun?, ih fun e mem => chars e (List.mem_cons_of_mem d mem)]
    simp [space, break_, mark, colon]

/-- A plain word is neither a mark between documents nor the beginning of one. -/
theorem not_atMark_of_isPlainWord {word : List Char} (plain : IsPlainWord word)
    (eq : c.rest = word ++ rest) : c.atMark '-' = false ∧ c.atMark '.' = false := by
  obtain ⟨sign, d, ds, sign_eq, rfl, first, -⟩ := plain
  have minus := ne_of_test first (by decide : isDigitOrLower '-' = false)
  have point := ne_of_test first (by decide : isDigitOrLower '.' = false)
  unfold Cursor.atMark
  rw [eq]
  rcases sign_eq with rfl | rfl
  · simp [minus, point]
  · simp [minus]

/-- A plain word inside brackets is read up to the mark behind it. -/
theorem readPlain?_of_isPlainWord {word : List Char} (plain : IsPlainWord word) (closes : Closes rest)
    (eq : c.rest = word ++ rest) (margin : Nat) :
    readPlain? true margin (fuel + 1) [] Gap.empty c = some (word, c.after word rest, false) := by
  obtain ⟨dash, point⟩ := not_atMark_of_isPlainWord plain eq
  have comment : c.isAt '#' = false := by
    cases h : word with
    | nil => exact absurd h plain.ne_nil
    | cons d ds =>
      have ne := ne_of_test (plain.chars d (h ▸ List.mem_cons_self))
        (by decide : isPlainChar '#' = false)
      rw [h] at eq
      rw [Cursor.isAt_of_rest eq]
      exact beq_eq_false_iff_ne.mpr ne
  have long : word.length ≠ 0 := fun h => plain.ne_nil (List.length_eq_zero_iff.mp h)
  have stops : ((c.after word rest).atSpace || (c.after word rest).atBreak) = false := by
    obtain ⟨m, more, rfl, mark⟩ := closes.isFlowMark_cases
    rcases mark with rfl | rfl | rfl | rfl | rfl <;> rfl
  rw [readPlain?, Cursor.atDocumentMark, dash, point, comment, eq, plainRun?_append plain.chars closes]
  simp [long, Cursor.advance_eq_after eq rfl, stops, Gap.empty, Gap.text]

/-! ## The words of JSON -/

theorem isPlainChar_of_isDigit {d : Char} (digit : isDigit d = true) : isPlainChar d = true := by
  simp [isPlainChar, isDigitOrLower, digit]

theorem IsUnsigned.append {a b : List Char} (ha : IsUnsigned a)
    (hb : ∀ e ∈ b, isPlainChar e = true) : IsUnsigned (a ++ b) := by
  obtain ⟨d, ds, rfl, first, others⟩ := ha
  exact ⟨d, ds ++ b, rfl, first, List.forall_mem_append.mpr ⟨others, hb⟩⟩

theorem IsUnsigned.isPlainWord {a : List Char} (ha : IsUnsigned a) : IsPlainWord a := by
  obtain ⟨d, ds, rfl, first, others⟩ := ha
  exact ⟨[], d, ds, .inl rfl, rfl, first, others⟩

theorem IsUnsigned.isPlainWord_minus {a : List Char} (ha : IsUnsigned a) : IsPlainWord ('-' :: a) := by
  obtain ⟨d, ds, rfl, first, others⟩ := ha
  exact ⟨['-'], d, ds, .inr rfl, rfl, first, others⟩

theorem isUnsigned_of_isDigit {ds : List Char} (some_ : ds ≠ []) (digit : ∀ d ∈ ds, isDigit d = true) :
    IsUnsigned ds := by
  cases ds with
  | nil => exact absurd rfl some_
  | cons d ds =>
    have first := digit d List.mem_cons_self
    exact ⟨d, ds, rfl, by simp [isDigitOrLower, first],
      fun e mem => isPlainChar_of_isDigit (digit e (List.mem_cons_of_mem d mem))⟩

theorem isUnsigned_digits (n : Nat) : IsUnsigned (digits n) :=
  isUnsigned_of_isDigit (digits_ne_nil n) isDigit_of_mem_digits

theorem isPlainWord_integerText (n : Int) : IsPlainWord (integerText n) := by
  unfold integerText
  split
  · exact (isUnsigned_digits _).isPlainWord_minus
  · exact (isUnsigned_digits _).isPlainWord

theorem isPlainChar_of_mem_replicate {n : Nat} : ∀ e ∈ List.replicate n '0', isPlainChar e = true :=
  fun _ mem => List.eq_of_mem_replicate mem ▸ rfl

theorem isDigit_digitsAndPoint (x : Binary64) (tie : DecimalTie) :
    (x.digitsAndPoint tie).1 ≠ [] ∧ ∀ d ∈ (x.digitsAndPoint tie).1, isDigit d = true := by
  unfold Binary64.digitsAndPoint
  split
  · exact ⟨List.cons_ne_nil _ _, fun d mem => List.mem_singleton.mp mem ▸ rfl⟩
  · exact ⟨digits_ne_nil _, isDigit_of_mem_digits⟩

theorem isUnsigned_positional {ds : List Char} (some_ : ds ≠ []) (digit : ∀ d ∈ ds, isDigit d = true)
    (point : Int) : IsUnsigned (Binary64.positional ds point) := by
  have plain : ∀ d ∈ ds, isPlainChar d = true := fun d mem => isPlainChar_of_isDigit (digit d mem)
  unfold Binary64.positional
  split_ifs with small long
  · refine ⟨'0', _, rfl, rfl, List.forall_mem_cons.mpr ⟨rfl, ?_⟩⟩
    exact List.forall_mem_append.mpr ⟨isPlainChar_of_mem_replicate, plain⟩
  · exact (isUnsigned_of_isDigit some_ digit).append isPlainChar_of_mem_replicate
  · have whole : ds.take point.toNat ≠ [] := by
      rw [Ne, List.take_eq_nil_iff, not_or]
      exact ⟨by omega, some_⟩
    refine (isUnsigned_of_isDigit whole fun d mem => digit d (List.mem_of_mem_take mem)).append ?_
    exact List.forall_mem_cons.mpr ⟨rfl, fun d mem => plain d (List.mem_of_mem_drop mem)⟩

/-- The first digit, and a point before the others. -/
theorem isUnsigned_scientific {ds : List Char} (some_ : ds ≠ []) (digit : ∀ d ∈ ds, isDigit d = true) :
    IsUnsigned (ds.take 1 ++ if ds.length = 1 then [] else '.' :: ds.drop 1) := by
  cases ds with
  | nil => exact absurd rfl some_
  | cons d ds =>
    obtain ⟨first, others⟩ := List.forall_mem_cons.mp digit
    refine IsUnsigned.append ⟨d, [], rfl, by simp [isDigitOrLower, first], nofun⟩ ?_
    split_ifs
    · exact nofun
    · exact List.forall_mem_cons.mpr ⟨rfl, fun e mem => isPlainChar_of_isDigit (others e mem)⟩

theorem isPlainWord_documentText (x : Binary64) : IsPlainWord x.documentText.toList := by
  obtain ⟨some_, digit⟩ := isDigit_digitsAndPoint x .toEven
  unfold Binary64.documentText
  generalize x.digitsAndPoint .toEven = p at some_ digit ⊢
  obtain ⟨ds, point⟩ := p
  have signed : ∀ {text : List Char}, IsUnsigned text → IsPlainWord (x.withSign text) := by
    intro text h
    unfold Binary64.withSign
    split
    · exact h.isPlainWord_minus
    · exact h.isPlainWord
  rw [String.toList_ofList]
  refine signed ?_
  have positional := isUnsigned_positional some_ digit point
  have exponent : ∀ e ∈ digits (point - 1).natAbs, isPlainChar e = true :=
    fun e mem => isPlainChar_of_isDigit (isDigit_of_mem_digits e mem)
  split
  · split
    · exact positional.append (by decide)
    · exact positional
  · have sign : isPlainChar (if point - 1 < 0 then '-' else '+') = true := by split <;> rfl
    exact (isUnsigned_scientific some_ digit).append
      (List.forall_mem_cons.mpr ⟨rfl, List.forall_mem_cons.mpr ⟨sign, exponent⟩⟩)

/-! ## Printable characters -/

theorem isPrintable_of_le {d : Char} (low : 32 ≤ d.toNat) (high : d.toNat ≤ 126) :
    isPrintable d = true := by
  simp [isPrintable, low, high]

theorem isPrintable_of_isDigitOrLower {d : Char} (word : isDigitOrLower d = true) :
    isPrintable d = true := by
  rcases Bool.or_eq_true_iff.mp word with digit | lower
  · obtain ⟨low, high⟩ := toNat_of_isDigit digit
    exact isPrintable_of_le (by omega) (by omega)
  · obtain ⟨least, most⟩ := Bool.and_eq_true_iff.mp lower
    have low : 97 ≤ d.toNat := UInt32.le_iff_toNat_le.mp (of_decide_eq_true least)
    have high : d.toNat ≤ 122 := UInt32.le_iff_toNat_le.mp (of_decide_eq_true most)
    exact isPrintable_of_le (by omega) (by omega)

theorem isPrintable_of_isPlainChar {d : Char} (plain : isPlainChar d = true) :
    isPrintable d = true := by
  by_cases word : isDigitOrLower d = true
  · exact isPrintable_of_isDigitOrLower word
  · have sign : (d = '-' ∨ d = '+') ∨ d = '.' := by simpa [isPlainChar, word] using plain
    rcases sign with (rfl | rfl) | rfl <;> rfl

theorem isPrintable_hexDigit {n : Nat} (lt : n < 16) : isPrintable (hexDigit n) = true := by
  have all : ∀ n : Fin 16, isPrintable (hexDigit n) = true := by decide
  exact all ⟨n, lt⟩

theorem isPrintable_of_mem_escapeChar {d : Char} (lies : Lies d) :
    ∀ e ∈ escapeChar d, isPrintable e = true := by
  unfold escapeChar
  split_ifs with quote backslash backspace tab newline feed return_ control
  · decide
  · decide
  · decide
  · decide
  · decide
  · decide
  · decide
  · have high := isPrintable_hexDigit (show d.toNat / 16 < 16 by omega)
    have low := isPrintable_hexDigit (show d.toNat % 16 < 16 by omega)
    simp only [List.forall_mem_cons, high, low]
    decide
  · intro e mem
    rw [List.mem_singleton.mp mem]
    exact (lies.resolve_left control).1

theorem isPrintable_of_mem_quote {key : String} (lie : ∀ d ∈ key.toList, Lies d) :
    ∀ e ∈ quote key, isPrintable e = true := by
  have inner : ∀ e ∈ key.toList.flatMap escapeChar, isPrintable e = true := by
    intro e mem
    obtain ⟨d, inKey, mem⟩ := List.mem_flatMap.mp mem
    exact isPrintable_of_mem_escapeChar (lie d inKey) e mem
  exact List.forall_mem_cons.mpr ⟨rfl, List.forall_mem_append.mpr ⟨inner, by decide⟩⟩

theorem IsPlainWord.isPrintable {word : List Char} (plain : IsPlainWord word) :
    ∀ e ∈ word, Yaml.isPrintable e = true :=
  fun e mem => isPrintable_of_isPlainChar (plain.chars e mem)

end BatchSync.Yaml
