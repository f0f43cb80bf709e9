import BatchSync.Config.Document
import BatchSync.Proofs.Json.Unambiguous

/-!
# Numbers of settings

A number that is written in decimal is read back if it is in the range of its word: digits have neither a
mark of another base nor a leading zero (`readMarked?_digits`). An absent value is written as null and read
as absent.
-/

namespace BatchSync

open BatchSync.Text Json Yaml

/-! ## Digits -/

theorem digitIn?_digitChar {d : Nat} (lt : d < 10) : digitIn? 10 (digitChar d) = some d := by
  have all : ∀ d : Fin 10, digitIn? 10 (digitChar d) = some d.val := by decide
  exact all ⟨d, lt⟩

theorem foldlM_digits (n : Nat) :
    (digits n).foldlM (fun m c => (digitIn? 10 c).map (10 * m + ·)) 0 = some n := by
  fun_induction digits n with
  | case1 n lt => simp [digitIn?_digitChar lt]
  | case2 n ge ih =>
    have last := digitIn?_digitChar (Nat.mod_lt n (by decide : 0 < 10))
    have value : 10 * (n / 10) + n % 10 = n := Nat.div_add_mod n 10
    simp [List.foldlM_append, ih, last, value]

theorem readInBase?_digits (n : Nat) : readInBase? 10 (digits n) = some n := by
  rw [readInBase?, if_neg (digits_ne_nil n)]
  exact foldlM_digits n

theorem digits_zero : digits 0 = ['0'] := by
  rw [digits]
  rfl

/-- Only the number zero is written with a zero in front. -/
theorem eq_zero_of_head?_digits {n : Nat} (zero : (digits n).head? = some '0') : n = 0 := by
  fun_induction digits n with
  | case1 n lt =>
    have all : ∀ d : Fin 10, digitChar d = '0' → d.val = 0 := by decide
    exact all ⟨n, lt⟩ (Option.some.inj zero)
  | case2 n ge ih =>
    rw [List.head?_append, Option.or_of_isSome (List.isSome_head?.mpr (digits_ne_nil _))] at zero
    have := ih zero
    omega

/-- A number is written as zero, or it begins with a digit other than zero. -/
theorem digits_eq_or (n : Nat) :
    n = 0 ∨ ∃ d ds, digits n = d :: ds ∧ isDigit d = true ∧ d ≠ '0' := by
  cases eq : digits n with
  | nil => exact absurd eq (digits_ne_nil n)
  | cons d ds =>
    by_cases zero : d = '0'
    · exact .inl (eq_zero_of_head?_digits (by rw [eq, zero]; rfl))
    · exact .inr ⟨d, ds, rfl, isDigit_of_mem_digits d (eq ▸ List.mem_cons_self), zero⟩

/-- A number is read back from its digits, which no mark precedes. -/
theorem readMarked?_digits (n : Nat) : readMarked? (digits n) = some n := by
  -- The marks of the other bases and a leading zero all need a zero in front.
  rcases digits_eq_or n with rfl | ⟨d, ds, eq, digit, notZero⟩
  · rw [digits_zero]
    rfl
  · have minus := ne_of_test digit (by decide : isDigit '-' = false)
    have plus := ne_of_test digit (by decide : isDigit '+' = false)
    have leading : hasLeadingZero (digits n) = false := by
      rw [eq]
      simp [hasLeadingZero, minus, plus, notZero]
    have read := readInBase?_digits n
    rw [eq] at leading read ⊢
    simp [readMarked?, notZero, leading, read]

/-! ## Words -/

theorem readWord?_digits {limit n : Nat} (lt : n < limit) : readWord? limit (digits n) = some n := by
  have unsigned : ∀ rest, digits n ≠ '+' :: rest := by
    intro rest eq
    have digit := isDigit_of_mem_digits '+' (eq ▸ List.mem_cons_self : '+' ∈ digits n)
    cases digit
  unfold readWord?
  split
  · rename_i rest eq
    exact absurd eq (unsigned rest)
  · show (readMarked? (digits n)).bind _ = _
    rw [readMarked?_digits, Option.bind_some, if_pos lt]

theorem readSigned?_integerText {n : Int} (least : -(signedWordLimit : Int) ≤ n)
    (lt : n < signedWordLimit) : readSigned? (integerText n) = some n := by
  unfold integerText
  split
  · rename_i negative
    show (readMarked? (digits n.natAbs)).bind _ = _
    rw [readMarked?_digits, Option.bind_some, if_pos (by omega)]
    congr 1
    omega
  · rename_i notNegative
    have unsigned : ∀ rest, digits n.natAbs ≠ '-' :: rest := fun rest eq =>
      digits_append_ne_minus n.natAbs rest [] ((List.append_nil _).trans eq)
    unfold readSigned?
    split
    · rename_i rest eq
      exact absurd eq (unsigned rest)
    · rw [readWord?_digits (by omega), Option.map_some]
      congr 1
      exact Int.natAbs_of_nonneg (Int.not_lt.mp notNegative)

/-! ## Values of settings -/

namespace Yaml.Document

variable {α : Type} (d : Document) {read? : Node → Option α}

theorem word?_toNode {limit n : Nat} (lt : n < limit) : d.word? limit (Json.nat n).toNode = some n := by
  have text : integerText n = digits n := if_neg (Int.not_lt.mpr (Int.natCast_nonneg n))
  show readWord? limit (String.ofList (integerText n)).toList = _
  rw [String.toList_ofList, text, readWord?_digits lt]

theorem signed?_toNode {n : Int} (least : -(signedWordLimit : Int) ≤ n) (lt : n < signedWordLimit) :
    d.signed? (Json.int n).toNode = some n := by
  show readSigned? (String.ofList (integerText n)).toList = _
  rw [String.toList_ofList, readSigned?_integerText least lt]

theorem optional?_null : d.optional? read? Json.null.toNode = some none := rfl

theorem optional?_object (members : List (String × Json)) :
    d.optional? read? (Json.object members).toNode =
      (read? (Json.object members).toNode).map some := by
  rw [toNode]
  rfl

/-- A number is neither blank nor null. -/
theorem optional?_int (n : Int) :
    d.optional? read? (Json.int n).toNode = (read? (Json.int n).toNode).map some := by
  have first : ∃ c cs, integerText n = c :: cs ∧ c ≠ 'n' ∧ c ≠ 'N' ∧ c ≠ '~' := by
    unfold integerText
    split
    · exact ⟨'-', _, rfl, by decide⟩
    · cases eq : digits n.natAbs with
      | nil => exact absurd eq (digits_ne_nil _)
      | cons c cs =>
        have digit := isDigit_of_mem_digits c (eq ▸ List.mem_cons_self)
        exact ⟨c, cs, rfl, ne_of_test digit (by decide), ne_of_test digit (by decide),
          ne_of_test digit (by decide)⟩
  obtain ⟨c, cs, eq, notLower, notUpper, notTilde⟩ := first
  have head : ∀ text : String, String.ofList (integerText n) = text → text.toList.head? = some c := by
    rintro _ rfl
    rw [String.toList_ofList, eq]
    rfl
  refine if_neg ?_
  rintro (blank | null)
  · cases head "" blank
  · have names := of_decide_eq_true null
    simp only [List.mem_cons, List.not_mem_nil, or_false] at names
    rcases names with name | name | name | name
    · exact notLower (Option.some.inj (head _ name)).symm
    · exact notUpper (Option.some.inj (head _ name)).symm
    · exact notUpper (Option.some.inj (head _ name)).symm
    · exact notTilde (Option.some.inj (head _ name)).symm

end Yaml.Document

end BatchSync
