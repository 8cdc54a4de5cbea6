import LSystem.Proofs.Expr.Spelling

/-! # Reading arithmetic

What the readers of expressions make of lexemes that start like an operand, when the reader below
stops in front of an operator. The readers between a group and a comparison, and those between a
comparison and a statement, only pass on what is read. -/

namespace LSystem.Expr

variable {name : String} {n : Nat} {ts : List Lexeme} {s : String}

/-! ## Starts of operands and operators -/

/-- How a list of lexemes starts if an operand comes next. -/
inductive StartsOperand : List Lexeme → Prop where
  | word {name : String} {ts : List Lexeme} : name ∉ keywords → (∀ ts', ts ≠ .symbol ":=" :: ts') →
    StartsOperand (.word name :: ts)
  | literal {i : Int} {ts : List Lexeme} : StartsOperand (.literal (.int i) :: ts)
  | symbol {s : String} {ts : List Lexeme} : s ∈ ["(", "+", "-"] → StartsOperand (.symbol s :: ts)

/-- How a list of lexemes starts after an operand. -/
inductive StartsOperator : List Lexeme → Prop where
  | newline {ts : List Lexeme} : StartsOperator (.newline :: ts)
  | closing {ts : List Lexeme} : StartsOperator (.symbol ")" :: ts)
  | operator {s : String} {ts : List Lexeme} : s ∈ operators → StartsOperator (.symbol s :: ts)

theorem StartsOperand.ne_word (h : StartsOperand ts) (hs : s ∈ keywords) :
    ∀ ts', ts ≠ .word s :: ts' := by
  rintro ts' rfl
  cases h with
  | word h => exact h hs

theorem StartsOperand.ne_symbol (h : StartsOperand ts) (hs : s ∉ ["(", "+", "-"]) :
    ∀ ts', ts ≠ .symbol s :: ts' := by
  rintro ts' rfl
  cases h with
  | symbol h => exact hs h

theorem StartsOperator.ne_symbol (h : StartsOperator ts) (hs : s ∉ ")" :: operators) :
    ∀ ts', ts ≠ .symbol s :: ts' := by
  rintro ts' rfl
  cases h with
  | closing => exact hs (by decide)
  | operator h => exact hs (List.mem_cons_of_mem _ h)

/-- What a reader leaves goes on with an operator. -/
def Stops (r : Option (Term × List Lexeme)) : Prop :=
  ∀ e rest, r = some (e, rest) → StartsOperator rest

theorem stops_some {e : Term} (h : StartsOperator ts) : Stops (some (e, ts)) := by
  intro e' rest hr
  cases hr
  exact h

/-! ## Readers that pass on what another one reads -/

theorem readExpression_pass (h : StartsOperand ts) (hr : Stops (readDisjunction n ts)) :
    readExpression (n + 1) ts = readDisjunction n ts := by
  rw [readExpression]
  · cases hd : readDisjunction n ts with
    | none => rfl
    | some p =>
      obtain ⟨e, rest⟩ := p
      cases hr e rest hd <;> rfl
  · exact h.ne_word (by decide)

theorem readDisjunction_pass (hr : Stops (readConjunction n ts)) :
    readDisjunction (n + 1) ts = readConjunction n ts := by
  rw [readDisjunction]
  cases hd : readConjunction n ts with
  | none => rfl
  | some p =>
    obtain ⟨e, rest⟩ := p
    cases hr e rest hd <;> rfl

theorem readConjunction_pass (hr : Stops (readInversion n ts)) :
    readConjunction (n + 1) ts = readInversion n ts := by
  rw [readConjunction]
  cases hd : readInversion n ts with
  | none => rfl
  | some p =>
    obtain ⟨e, rest⟩ := p
    cases hr e rest hd <;> rfl

theorem readAwait_pass (h : StartsOperand ts) : readAwait (n + 1) ts = readPrimary n ts := by
  rw [readAwait]
  exact h.ne_word (by decide)

theorem readNamedExpression_pass (h : StartsOperand ts) (hr : Stops (readExpression n ts)) :
    readNamedExpression (n + 1) ts = readExpression n ts := by
  rw [readNamedExpression]
  · cases hd : readExpression n ts with
    | none => rfl
    | some p =>
      obtain ⟨e, rest⟩ := p
      have hne : ∀ ts', rest ≠ .symbol ":=" :: ts' := (hr e rest hd).ne_symbol (by decide)
      simp only [Option.bind_eq_bind, Option.bind_some]
  · rintro name ts' rfl
    cases h with
    | word _ h => exact h _ rfl

theorem readItem_pass (h : StartsOperand ts) :
    readItem (n + 1) ts = readNamedExpression n ts := by
  rw [readItem]
  exact h.ne_symbol (by decide)

theorem readStarred_pass (h : StartsOperand ts) : readStarred (n + 1) ts = readExpression n ts := by
  rw [readStarred]
  exact h.ne_symbol (by decide)

theorem readExpressions_pass (hr : Stops (readStarred n ts)) :
    readExpressions (n + 1) ts = readStarred n ts := by
  rw [readExpressions]
  cases hd : readStarred n ts with
  | none => rfl
  | some p =>
    obtain ⟨e, rest⟩ := p
    have hne : ∀ ts', rest ≠ .symbol "," :: ts' := (hr e rest hd).ne_symbol (by decide)
    simp only [Option.bind_eq_bind, Option.bind_some]

/-! ## Operands of one lexeme, and operators -/

theorem readTrailers_stop (h : StartsOperator ts) (e : Term) :
    readTrailers (n + 1) e ts = some (e, ts) := by
  rw [readTrailers]
  · exact h.ne_symbol (by decide)
  · exact h.ne_symbol (by decide)
  · exact h.ne_symbol (by decide)

theorem readAtom_word (h : name ∉ keywords) :
    readAtom (n + 1) (.word name :: ts) = some (.name name, ts) := by
  have hne {s : String} (hs : s ∈ keywords) : name ≠ s := fun e => h (e ▸ hs)
  rw [readAtom, if_neg (by simpa using h)]
  · exact fun e => hne (by decide) e
  · exact fun e => hne (by decide) e
  · exact fun e => hne (by decide) e

theorem readAtom_literal (i : Int) :
    readAtom (n + 1) (.literal (.int i) :: ts) = some (.literal (.int i), ts) := by
  rw [readAtom]

theorem readAwait_word {e : Term} {rest : List Lexeme} (h : name ∉ keywords)
    (hts : StartsOperator ts) (hr : readAwait n (.word name :: ts) = some (e, rest)) :
    e = .name name ∧ rest = ts := by
  have hstart : StartsOperand (.word name :: ts) := .word h (hts.ne_symbol (by decide))
  match n with
  | 0 =>
    rw [readAwait] at hr
    cases hr
  | 1 =>
    rw [readAwait_pass hstart, readPrimary] at hr
    cases hr
  | 2 =>
    rw [readAwait_pass hstart, readPrimary, readAtom] at hr
    cases hr
  | n + 3 =>
    rw [readAwait_pass hstart, readPrimary, readAtom_word h] at hr
    simp only [Option.bind_eq_bind, Option.bind_some, readTrailers_stop hts] at hr
    cases hr
    exact ⟨rfl, rfl⟩

theorem readAwait_literal (i : Int) (hts : StartsOperator ts) :
    readAwait (n + 3) (.literal (.int i) :: ts) = some (.literal (.int i), ts) := by
  rw [readAwait_pass .literal, readPrimary, readAtom_literal]
  simp only [Option.bind_eq_bind, Option.bind_some, readTrailers_stop hts]

theorem readFactor_plus : readFactor (n + 1) (.symbol "+" :: ts) =
    (readFactor n ts).map fun p => (.unary .plus p.1, p.2) := by
  rw [readFactor]
  cases readFactor n ts <;> rfl

theorem readFactor_minus : readFactor (n + 1) (.symbol "-" :: ts) =
    (readFactor n ts).map fun p => (.unary .minus p.1, p.2) := by
  rw [readFactor]
  cases readFactor n ts <;> rfl

/-- No sign comes next. -/
def NoSign (ts : List Lexeme) : Prop := ∀ s ts', ts = .symbol s :: ts' → s = "("

theorem readFactor_eq_none (h : NoSign ts) (hr : readAwait n ts = none) :
    readFactor (n + 1) ts = none := by
  rw [readFactor]
  · simp only [Option.bind_eq_bind, hr, Option.bind_none]
  all_goals
    rintro ts' rfl
    exact absurd (h _ _ rfl) (by decide)

theorem readFactor_base {e : Term} {rest : List Lexeme} (h : NoSign ts)
    (hr : readAwait n ts = some (e, rest)) (hpow : ∀ ts', rest ≠ .symbol "**" :: ts') :
    readFactor (n + 1) ts = some (e, rest) := by
  rw [readFactor]
  · simp only [Option.bind_eq_bind, hr, Option.bind_some]
  all_goals
    rintro ts' rfl
    exact absurd (h _ _ rfl) (by decide)

theorem readFactor_power {e : Term} {rest : List Lexeme} (h : NoSign ts)
    (hr : readAwait n ts = some (e, .symbol "**" :: rest)) :
    readFactor (n + 1) ts = (readFactor n rest).map fun p => (.binary .pow e p.1, p.2) := by
  rw [readFactor]
  · simp only [Option.bind_eq_bind, hr, Option.bind_some]
    cases readFactor n rest <;> rfl
  all_goals
    rintro ts' rfl
    exact absurd (h _ _ rfl) (by decide)

theorem readClauses_eq_none (h : StartsOperator ts) : readClauses n ts = none := by
  cases n with
  | zero => rw [readClauses]
  | succ n =>
    cases h
    all_goals
      rw [readClauses]
      all_goals
        intro ts' e
        cases e

theorem readGroup_eq_none (h : StartsOperand ts) (hr : readItem n ts = none) :
    readGroup (n + 1) ts = none := by
  rw [readGroup]
  · simp only [hr, Option.bind_eq_bind, Option.bind_none]
  · exact h.ne_symbol (by decide)
  · exact h.ne_word (by decide)

/-- Brackets around an operand. -/
theorem readGroup_iff {e e₁ : Term} {rest rest₁ : List Lexeme} (h : StartsOperand ts)
    (hr : readItem n ts = some (e₁, rest₁)) (h₁ : StartsOperator rest₁)
    (hs : ∀ y, e₁ ≠ .starred y) :
    readGroup (n + 1) ts = some (e, rest) ↔ e₁ = e ∧ rest₁ = .symbol ")" :: rest := by
  rw [readGroup]
  · simp only [hr, Option.bind_eq_bind, Option.bind_some]
    have hcomma : ∀ ts', rest₁ ≠ .symbol "," :: ts' := h₁.ne_symbol (by decide)
    have hclauses : readClauses n rest₁ = none := readClauses_eq_none h₁
    split
    · exact absurd rfl (hcomma _)
    · exact absurd rfl (hs _)
    · simp
    · next hclose =>
      rw [hclauses]
      constructor
      · intro e'
        cases e'
      · rintro ⟨-, rfl⟩
        exact absurd rfl (hclose _)
  · exact h.ne_symbol (by decide)
  · exact h.ne_word (by decide)

/-! ## Statements -/

namespace Program

variable {e : Term} {rest : List Lexeme} {statements : List Statement}

theorem readExpressionStatement_eq (h : StartsOperand ts)
    (hr : Stops (readExpressions n ts)) : readExpressionStatement n ts =
      (readExpressions n ts).map fun p => (.expression p.1, p.2) := by
  have hvalue : readValue n ts = readExpressions n ts := by
    rw [readValue]
    exact h.ne_word (by decide)
  rw [readExpressionStatement, hvalue]
  cases he : readExpressions n ts with
  | none => rfl
  | some p =>
    obtain ⟨e, rest⟩ := p
    simp only [Option.bind_eq_bind, Option.bind_some, Option.map_some]
    cases hr e rest he with
    | newline => rfl
    | closing => rfl
    | operator hs =>
      simp only [operators, List.mem_cons, List.not_mem_nil, or_false] at hs
      rcases hs with
        rfl | rfl | rfl | rfl | rfl | rfl | rfl | rfl | rfl | rfl | rfl | rfl | rfl <;> rfl

theorem readSimple_eq (h : StartsOperand ts) : readSimple n ts = readExpressionStatement n ts := by
  rw [readSimple]
  all_goals exact h.ne_word (by decide)

/-- A line that starts with an operand is one expression. -/
theorem readLine_iff (h : StartsOperand ts) (hr : Stops (readExpressions n ts)) :
    readLine (n + 1) [] ts = some (statements, rest) ↔
      ∃ e, readExpressions n ts = some (e, .newline :: rest) ∧ statements = [.expression e] := by
  rw [readLine, readSimple_eq h, readExpressionStatement_eq h hr]
  cases he : readExpressions n ts with
  | none => simp
  | some p =>
    obtain ⟨e, rest₁⟩ := p
    simp only [Option.map_some, Option.bind_eq_bind, Option.bind_some]
    have hsemicolon : ∀ ts', rest₁ ≠ .symbol ";" :: ts' := (hr e rest₁ he).ne_symbol (by decide)
    split
    · next rest' _ =>
      constructor
      · intro e'
        cases e'
        exact ⟨e, rfl, rfl⟩
      · rintro ⟨e', h', rfl⟩
        cases h'
        rfl
    · exact absurd rfl (hsemicolon _)
    · exact absurd rfl (hsemicolon _)
    · next hne _ _ =>
      constructor
      · exact nofun
      · rintro ⟨e', h', -⟩
        cases h'
        exact absurd rfl (hne _)

theorem readStatements_eq (h : StartsOperand ts) (hm : ∀ ts', ts ≠ .word "match" :: ts') :
    readStatements (n + 1) ts = readLine n [] ts := by
  rw [readStatements]
  all_goals
    intro ts' e
    first
    | exact hm _ e
    | exact h.ne_symbol (by decide) _ e
    | exact h.ne_word (by decide) _ e

/-- The word `match` may be a name, or start a statement without a value. -/
theorem readStatements_match (hr : readStatements (n + 1) (.word "match" :: ts) =
    some (statements, rest)) : statements = [.other "Match"] ∨
      readLine n [] (.word "match" :: ts) = some (statements, rest) := by
  rw [readStatements] at hr
  split at hr
  · cases hr
    exact .inl rfl
  · exact .inr hr

theorem readAll_isPrefix {done : List Statement} (h : readAll n done ts = some statements) :
    done.reverse <+: statements := by
  induction n generalizing done ts with
  | zero =>
    cases ts with
    | nil => cases h; exact List.prefix_rfl
    | cons t ts => cases h
  | succ n ih =>
    cases ts with
    | nil => cases h; exact List.prefix_rfl
    | cons t ts =>
      rw [readAll] at h
      split at h
      · have := ih h
        rw [List.reverse_append] at this
        exact (List.prefix_append _ _).trans this
      · cases h

end Program

end LSystem.Expr
