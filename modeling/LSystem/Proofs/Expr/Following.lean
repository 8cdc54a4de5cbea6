import LSystem.Expr.Eval
import LSystem.Proofs.Expr.Reading
import Mathlib.Data.List.Forall2

/-! # Reading arithmetic with a name or with its value

A word that is bound to an integer, and the lexemes that this integer is written with, stand for the
same value. So what the readers make of an arithmetic text with the word in its holes is matched,
reader by reader, by what they make of it with the integer (`Follows`): they stop at the same place,
and the expressions have the same value. A negative integer has a sign of its own, which binds less
than a power; so it must not be the base of one. -/

namespace LSystem.Expr

variable {n : Nat} {ts : List Lexeme} {s : String}

/-! ## Names and values -/

/-- The parts of a text without their blanks: an operand comes next if `operand` holds, else an
operator. Unless `base` holds, no hole is the base of a power. -/
inductive Alternates (base : Prop) : (operand : Bool) → List Part → Prop where
  | nil : Alternates base false []
  | hole {ps : List Part} : (ps.head? = some (.operator "**") → base) → Alternates base false ps →
    Alternates base true (.hole :: ps)
  | numeral {d : Text} {ps : List Part} : Alternates base false ps →
    Alternates base true (.numeral d :: ps)
  | opening {ps : List Part} : Alternates base true ps → Alternates base true (.opening :: ps)
  | sign {s : String} {ps : List Part} : s ∈ ["+", "-"] → Alternates base true ps →
    Alternates base true (.operator s :: ps)
  | closing {ps : List Part} : Alternates base false ps → Alternates base false (.closing :: ps)
  | operator {s : String} {ps : List Part} : s ∈ operators → Alternates base true ps →
    Alternates base false (.operator s :: ps)

/-- The lexemes of a line that consists of some parts. -/
def line (hole : List Lexeme) (ps : List Part) : List Lexeme :=
  ps.flatMap (Part.lexemes hole) ++ [.newline]

/-- An integer as it is written in an expression: its absolute value, after a sign if it is
negative. -/
def signed (v : Int) : List Lexeme :=
  if v < 0 then [.symbol "-", .literal (.int (-v))] else [.literal (.int v)]

/-- A name that is bound to an integer in the first of two scopes. -/
structure Binding where
  name : String
  value : Int
  scope : Scope
  plain : Scope
  keyword : name ∉ keywords
  lookup : scope.lookup name = .ok (.int value)

namespace Binding

variable {B : Binding} {ps qs : List Part} {e e' l l' r r' : Term} {operand : Bool}

/-- A line with the name in its holes. -/
def named (B : Binding) (ps : List Part) : List Lexeme := line [.word B.name] ps

/-- A line with the value in its holes. -/
def filled (B : Binding) (ps : List Part) : List Lexeme := line (signed B.value) ps

/-- The parts may be filled with the value. -/
def Fits (B : Binding) (operand : Bool) (ps : List Part) : Prop :=
  Alternates (0 ≤ B.value) operand ps

/-- Two expressions have the same value, and neither is starred. -/
structure Agree (B : Binding) (e e' : Term) : Prop where
  eval : eval B.scope e = eval B.plain e'
  star : ∀ y, e ≠ .starred y
  star' : ∀ y, e' ≠ .starred y

/-- What a reader reads of a line with the name, in at most `n` steps, is matched by what it reads
of the line with the value, if it has twenty steps for each lexeme and `height` more. -/
def Follows (B : Binding) (P : List Part → Prop) (height : Nat)
    (read : Nat → List Lexeme → Option (Term × List Lexeme)) (n : Nat) : Prop :=
  ∀ ps e rest, P ps → read n (B.named ps) = some (e, rest) →
    ∃ qs e', B.Fits false qs ∧ rest = B.named qs ∧ B.Agree e e' ∧
      (B.filled qs).length < (B.filled ps).length ∧
      ∀ m, height + 20 * (B.filled ps).length ≤ m + 20 * (B.filled qs).length →
        read m (B.filled ps) = some (e', B.filled qs)

theorem named_hole (ps : List Part) : B.named (.hole :: ps) = .word B.name :: B.named ps := rfl

theorem named_numeral (d : Text) (ps : List Part) :
    B.named (.numeral d :: ps) = .literal (.int (literalValue d)) :: B.named ps := rfl

theorem named_opening (ps : List Part) : B.named (.opening :: ps) = .symbol "(" :: B.named ps := rfl

theorem named_operator (s : String) (ps : List Part) :
    B.named (.operator s :: ps) = .symbol s :: B.named ps := rfl

theorem filled_hole_of_neg (h : B.value < 0) (ps : List Part) :
    B.filled (.hole :: ps) = .symbol "-" :: .literal (.int (-B.value)) :: B.filled ps := by
  simp [filled, line, Part.lexemes, signed, h]

theorem filled_hole_of_nonneg (h : 0 ≤ B.value) (ps : List Part) :
    B.filled (.hole :: ps) = .literal (.int B.value) :: B.filled ps := by
  simp [filled, line, Part.lexemes, signed, Int.not_lt.2 h]

theorem filled_numeral (d : Text) (ps : List Part) :
    B.filled (.numeral d :: ps) = .literal (.int (literalValue d)) :: B.filled ps := rfl

theorem filled_opening (ps : List Part) :
    B.filled (.opening :: ps) = .symbol "(" :: B.filled ps := rfl

theorem filled_closing (ps : List Part) :
    B.filled (.closing :: ps) = .symbol ")" :: B.filled ps := rfl

theorem filled_operator (s : String) (ps : List Part) :
    B.filled (.operator s :: ps) = .symbol s :: B.filled ps := rfl

theorem length_filled_pos (B : Binding) (ps : List Part) : 0 < (B.filled ps).length := by
  simp [filled, line]

theorem startsOperator (hole : List Lexeme) (h : B.Fits false ps) :
    StartsOperator (line hole ps) := by
  cases h with
  | nil => exact .newline
  | closing => exact .closing
  | operator hs => exact .operator hs

theorem startsOperand_named (h : B.Fits true ps) : StartsOperand (B.named ps) := by
  cases h with
  | hole _ h => exact .word B.keyword ((startsOperator _ h).ne_symbol (by decide))
  | numeral => exact .literal
  | opening => exact .symbol (by decide)
  | sign hs => exact .symbol (List.mem_cons_of_mem _ hs)

theorem startsOperand_filled (h : B.Fits true ps) : StartsOperand (B.filled ps) := by
  cases h with
  | hole _ h =>
    by_cases hv : B.value < 0
    · rw [filled_hole_of_neg hv]
      exact .symbol (by decide)
    · rw [filled_hole_of_nonneg (Int.not_lt.1 hv)]
      exact .literal
  | numeral => exact .literal
  | opening => exact .symbol (by decide)
  | sign hs => exact .symbol (List.mem_cons_of_mem _ hs)

/-- A follower stops in front of an operator. -/
theorem Follows.stops {P : List Part → Prop} {height : Nat}
    {read : Nat → List Lexeme → Option (Term × List Lexeme)} (h : B.Follows P height read n)
    (hps : P ps) : Stops (read n (B.named ps)) := by
  intro e rest hr
  obtain ⟨qs, e', hq, rfl, -⟩ := h ps e rest hps hr
  exact startsOperator _ hq

/-- A reader that passes on what another one reads follows if that one does. -/
theorem Follows.pass {P : List Part → Prop} {height : Nat}
    {read read' : Nat → List Lexeme → Option (Term × List Lexeme)}
    (hP : ∀ ps, P ps → B.Fits true ps)
    (hpass : ∀ n ts, StartsOperand ts → Stops (read' n ts) → read (n + 1) ts = read' n ts)
    (h : B.Follows P height read' n) : B.Follows P (height + 1) read (n + 1) := by
  intro ps e rest hps hr
  rw [hpass n _ (startsOperand_named (hP ps hps)) (h.stops hps)] at hr
  obtain ⟨qs, e', hq, rfl, he, hlt, hm⟩ := h ps e rest hps hr
  refine ⟨qs, e', hq, rfl, he, hlt, fun m hle => ?_⟩
  obtain ⟨m, rfl⟩ : ∃ m', m = m' + 1 := ⟨m - 1, by omega⟩
  have hread := hm m (by omega)
  rw [hpass m _ (startsOperand_filled (hP ps hps)) ?_, hread]
  rw [hread]
  exact stops_some (startsOperator _ hq)

/-! ## Expressions that agree -/

namespace Agree

theorem literal (i : Int) : B.Agree (.literal (.int i)) (.literal (.int i)) :=
  ⟨rfl, nofun, nofun⟩

theorem name_of_nonneg (B : Binding) : B.Agree (.name B.name) (.literal (.int B.value)) :=
  ⟨B.lookup, nofun, nofun⟩

theorem name_of_neg (B : Binding) :
    B.Agree (.name B.name) (.unary .minus (.literal (.int (-B.value)))) := by
  have h : Value.unary .minus (.int (-B.value)) = .ok (.int B.value) := by
    have : Value.unary .minus (.int (-B.value)) = .ok (.int (- -B.value)) := rfl
    rw [this, Int.neg_neg]
  exact ⟨B.lookup.trans h.symm, nofun, nofun⟩

theorem unary (op : UnaryOp) (h : B.Agree e e') : B.Agree (.unary op e) (.unary op e') :=
  ⟨by simp only [Expr.eval, h.eval], nofun, nofun⟩

theorem binary (op : BinaryOp) (hl : B.Agree l l') (hr : B.Agree r r') :
    B.Agree (.binary op l r) (.binary op l' r') :=
  ⟨by cases op <;> simp only [Expr.eval, hl.eval, hr.eval], nofun, nofun⟩

theorem evalChain {es es' : List Term} (h : List.Forall₂ B.Agree es es') (result : Bool)
    (left : Value) (ops : List CompareOp) :
    Expr.evalChain B.scope result left ops es = Expr.evalChain B.plain result left ops es' := by
  induction h generalizing result left ops with
  | nil => cases ops <;> simp [Expr.evalChain]
  | cons h _ ih => cases ops <;> simp [Expr.evalChain, h.eval, ih]

theorem compare {es es' : List Term} (ops : List CompareOp) (h : B.Agree e e')
    (hes : List.Forall₂ B.Agree es es') : B.Agree (.compare e ops es) (.compare e' ops es') :=
  ⟨by simp only [Expr.eval, h.eval, evalChain hes], nofun, nofun⟩

end Agree

/-! ## The readers -/

/-- The next operand has no sign of its own. -/
def Unsigned (B : Binding) (ps : List Part) : Prop :=
  B.Fits true ps ∧ (∀ s qs, ps ≠ .operator s :: qs) ∧ ∀ qs, ps = .hole :: qs → 0 ≤ B.value

theorem group (h : B.Follows (B.Fits true) 10 readItem n) :
    B.Follows (B.Fits true) 11 readGroup (n + 1) := by
  intro ps e rest hps hr
  have hstart := startsOperand_named hps
  cases hi : readItem n (B.named ps) with
  | none =>
    rw [readGroup_eq_none hstart hi] at hr
    cases hr
  | some p =>
    obtain ⟨e₁, rest₁⟩ := p
    obtain ⟨qs, e', hq, rfl, he, hlt, hm⟩ := h ps e₁ rest₁ hps hi
    obtain ⟨rfl, hclose⟩ := (readGroup_iff hstart hi (startsOperator _ hq) he.star).1 hr
    cases hq with
    | nil => cases hclose
    | operator hs =>
      obtain rfl := Lexeme.symbol.inj (List.cons.inj hclose).1
      exact absurd hs (by decide)
    | @closing qs hq =>
      cases hclose
      rw [filled_closing, List.length_cons] at hlt hm
      refine ⟨qs, e', hq, rfl, he, by omega, fun m hle => ?_⟩
      obtain ⟨m, rfl⟩ : ∃ m', m = m' + 1 := ⟨m - 1, by omega⟩
      have hread := hm m (by omega)
      exact (readGroup_iff (startsOperand_filled hps) hread .closing he.star').2 ⟨rfl, rfl⟩

theorem atom (h : B.Follows (B.Fits true) 11 readGroup n) :
    B.Follows B.Unsigned 0 readAtom (n + 1) := by
  rintro ps e rest ⟨hps, hsign, hhole⟩ hr
  cases hps with
  | @hole ps _ hps =>
    have hv := hhole ps rfl
    rw [named_hole, readAtom_word B.keyword] at hr
    cases hr
    rw [filled_hole_of_nonneg hv, List.length_cons]
    refine ⟨ps, _, hps, rfl, .name_of_nonneg B, by omega, fun m hm => ?_⟩
    obtain ⟨m, rfl⟩ : ∃ m', m = m' + 1 := ⟨m - 1, by omega⟩
    exact readAtom_literal _
  | @numeral d ps hps =>
    rw [named_numeral, readAtom_literal] at hr
    cases hr
    rw [filled_numeral, List.length_cons]
    refine ⟨ps, _, hps, rfl, .literal _, by omega, fun m hm => ?_⟩
    obtain ⟨m, rfl⟩ : ∃ m', m = m' + 1 := ⟨m - 1, by omega⟩
    exact readAtom_literal _
  | @opening ps hps =>
    rw [named_opening, readAtom] at hr
    obtain ⟨qs, e', hq, rfl, he, hlt, hm⟩ := h ps e rest hps hr
    rw [filled_opening, List.length_cons]
    refine ⟨qs, e', hq, rfl, he, by omega, fun m hle => ?_⟩
    obtain ⟨m, rfl⟩ : ∃ m', m = m' + 1 := ⟨m - 1, by omega⟩
    rw [readAtom]
    exact hm m (by omega)
  | @sign s ps _ _ => exact absurd rfl (hsign s ps)

theorem primary (h : B.Follows B.Unsigned 0 readAtom n) :
    B.Follows B.Unsigned 1 readPrimary (n + 1) := by
  intro ps e rest hps hr
  rw [readPrimary] at hr
  obtain ⟨⟨e₁, rest₁⟩, ha, hr⟩ := Option.bind_eq_some_iff.1 hr
  obtain ⟨qs, e', hq, rfl, he, hlt, hm⟩ := h ps e₁ rest₁ hps ha
  have hstop := startsOperator [.word B.name] hq
  obtain ⟨n, rfl⟩ : ∃ n', n = n' + 1 := by
    cases n with
    | zero => rw [readAtom] at ha; cases ha
    | succ n => exact ⟨n, rfl⟩
  have hr := (readTrailers_stop hstop e₁).symm.trans hr
  cases hr
  refine ⟨qs, e', hq, rfl, he, hlt, fun m hle => ?_⟩
  obtain ⟨m, rfl⟩ : ∃ m', m = m' + 2 := ⟨m - 2, by omega⟩
  rw [readPrimary, hm (m + 1) (by omega)]
  exact readTrailers_stop (startsOperator _ hq) e'

theorem noSign_named (h : B.Unsigned ps) : NoSign (B.named ps) := by
  obtain ⟨hps, hsign, -⟩ := h
  cases hps with
  | hole => exact nofun
  | numeral => exact nofun
  | opening =>
    intro s ts' e
    cases e
    rfl
  | sign => exact absurd rfl (hsign _ _)

theorem noSign_filled (h : B.Unsigned ps) : NoSign (B.filled ps) := by
  obtain ⟨hps, hsign, hhole⟩ := h
  cases hps with
  | hole =>
    rw [filled_hole_of_nonneg (hhole _ rfl)]
    exact nofun
  | numeral => exact nofun
  | opening =>
    intro s ts' e
    cases e
    rfl
  | sign => exact absurd rfl (hsign _ _)

theorem line_ne_power (h : B.Fits false qs) (hpow : ¬ ∃ qs', qs = .operator "**" :: qs')
    (hole : List Lexeme) : ∀ ts', line hole qs ≠ .symbol "**" :: ts' := by
  intro ts' e
  cases h with
  | nil => cases e
  | closing => exact absurd (Lexeme.symbol.inj (List.cons.inj e).1) (by decide)
  | operator =>
    obtain rfl := Lexeme.symbol.inj (List.cons.inj e).1
    exact hpow ⟨_, rfl⟩

theorem factor_unsigned (ha : B.Follows B.Unsigned 2 readAwait n)
    (hf : B.Follows (B.Fits true) 3 readFactor n) :
    B.Follows B.Unsigned 3 readFactor (n + 1) := by
  intro ps e rest hps hr
  have hsign := noSign_named hps
  cases hw : readAwait n (B.named ps) with
  | none =>
    rw [readFactor_eq_none hsign hw] at hr
    cases hr
  | some p =>
    obtain ⟨e₁, rest₁⟩ := p
    obtain ⟨qs, e₁', hq, rfl, he₁, hlt, hm⟩ := ha ps e₁ rest₁ hps hw
    by_cases hpow : ∃ qs', qs = .operator "**" :: qs'
    · obtain ⟨qs', rfl⟩ := hpow
      have hq' : B.Fits true qs' := by
        cases hq with
        | operator _ h => exact h
      rw [named_operator] at hw
      rw [readFactor_power hsign hw] at hr
      obtain ⟨⟨p, rest₂⟩, hp, hr⟩ := Option.map_eq_some_iff.1 hr
      cases hr
      obtain ⟨rs, p', hrs, rfl, hp', hlt', hm'⟩ := hf qs' p rest₂ hq' hp
      rw [filled_operator, List.length_cons] at hlt hm
      refine ⟨rs, _, hrs, rfl, he₁.binary .pow hp', by omega, fun m hle => ?_⟩
      obtain ⟨m, rfl⟩ : ∃ m', m = m' + 1 := ⟨m - 1, by omega⟩
      rw [readFactor_power (noSign_filled hps) (hm m (by omega)), hm' m (by omega)]
      rfl
    · have hne (hole : List Lexeme) : ∀ ts', line hole qs ≠ .symbol "**" :: ts' :=
        line_ne_power hq hpow hole
      rw [readFactor_base hsign hw (hne _)] at hr
      cases hr
      refine ⟨qs, e₁', hq, rfl, he₁, hlt, fun m hle => ?_⟩
      obtain ⟨m, rfl⟩ : ∃ m', m = m' + 1 := ⟨m - 1, by omega⟩
      exact readFactor_base (noSign_filled hps) (hm m (by omega)) (hne _)

/-- A sign in front of an operand. -/
theorem factor_sign {op : UnaryOp} (hf : B.Follows (B.Fits true) 3 readFactor n)
    (hop : ∀ n ts, readFactor (n + 1) (.symbol s :: ts) =
      (readFactor n ts).map fun p => (.unary op p.1, p.2)) :
    B.Follows (fun ps => ∃ qs, ps = .operator s :: qs ∧ B.Fits true qs) 3 readFactor (n + 1) := by
  rintro _ e rest ⟨ps, rfl, hps⟩ hr
  rw [named_operator, hop] at hr
  obtain ⟨⟨e₁, rest₁⟩, h₁, hr⟩ := Option.map_eq_some_iff.1 hr
  cases hr
  obtain ⟨qs, e', hq, rfl, he, hlt, hm⟩ := hf ps e₁ rest₁ hps h₁
  rw [filled_operator, List.length_cons]
  refine ⟨qs, _, hq, rfl, he.unary op, by omega, fun m hle => ?_⟩
  obtain ⟨m, rfl⟩ : ∃ m', m = m' + 1 := ⟨m - 1, by omega⟩
  rw [hop, hm m (by omega)]
  rfl

/-- The name of a negative number, which is no base of a power, against its sign and absolute
value. -/
theorem factor_hole (hv : B.value < 0) (hf : B.Fits false ps)
    (hpow : ¬ ∃ qs, ps = .operator "**" :: qs) {e : Term} {rest : List Lexeme}
    (hr : readFactor (n + 1) (B.named (.hole :: ps)) = some (e, rest)) :
    e = .name B.name ∧ rest = B.named ps ∧
      ∀ m, readFactor (m + 5) (B.filled (.hole :: ps)) =
        some (.unary .minus (.literal (.int (-B.value))), B.filled ps) := by
  have hsign : NoSign (B.named (.hole :: ps)) := nofun
  cases hw : readAwait n (B.named (.hole :: ps)) with
  | none =>
    rw [readFactor_eq_none hsign hw] at hr
    cases hr
  | some p =>
    obtain ⟨e₁, rest₁⟩ := p
    obtain ⟨rfl, rfl⟩ := readAwait_word B.keyword (startsOperator _ hf) hw
    rw [readFactor_base hsign hw (line_ne_power hf hpow _)] at hr
    cases hr
    refine ⟨rfl, rfl, fun m => ?_⟩
    have hlit : readFactor (m + 4) (.literal (.int (-B.value)) :: B.filled ps) =
        some (.literal (.int (-B.value)), B.filled ps) :=
      readFactor_base nofun (readAwait_literal _ (startsOperator _ hf)) (line_ne_power hf hpow _)
    rw [filled_hole_of_neg hv, readFactor_minus, hlit]
    rfl

theorem factor (ha : B.Follows B.Unsigned 2 readAwait n)
    (hf : B.Follows (B.Fits true) 3 readFactor n) :
    B.Follows (B.Fits true) 3 readFactor (n + 1) := by
  intro ps e rest hps hr
  cases hps with
  -- A sign in the text and the sign of a negative value are read before any power.
  | @sign s ps hs hps =>
    simp only [List.mem_cons, List.not_mem_nil, or_false] at hs
    obtain rfl | rfl := hs
    · exact factor_sign hf (fun _ _ => readFactor_plus) _ _ _ ⟨ps, rfl, hps⟩ hr
    · exact factor_sign hf (fun _ _ => readFactor_minus) _ _ _ ⟨ps, rfl, hps⟩ hr
  | @hole ps hpow hps =>
    by_cases hv : B.value < 0
    · have hpow : ¬ ∃ qs, ps = .operator "**" :: qs := by
        rintro ⟨qs, rfl⟩
        exact Int.not_le.2 hv (hpow rfl)
      obtain ⟨rfl, rfl, hm⟩ := factor_hole hv hps hpow hr
      rw [filled_hole_of_neg hv, List.length_cons, List.length_cons]
      refine ⟨ps, _, hps, rfl, .name_of_neg B, by omega, fun m hle => ?_⟩
      obtain ⟨m, rfl⟩ : ∃ m', m = m' + 5 := ⟨m - 5, by omega⟩
      exact (filled_hole_of_neg hv ps) ▸ hm m
    · have hv := Int.not_lt.1 hv
      exact factor_unsigned ha hf _ _ _ ⟨.hole hpow hps, nofun, fun _ _ => hv⟩ hr
  | numeral hqs => exact factor_unsigned ha hf _ _ _ ⟨.numeral hqs, nofun, nofun⟩ hr
  | opening hqs => exact factor_unsigned ha hf _ _ _ ⟨.opening hqs, nofun, nofun⟩ hr

/-- What a reader that goes on after an operand reads of a line with the name is matched by what it
reads of the line with the value, after an operand of the same value. -/
def FollowsRest (B : Binding) (height : Nat)
    (read : Nat → Term → List Lexeme → Option (Term × List Lexeme)) (n : Nat) : Prop :=
  ∀ ps l l' e rest, B.Fits false ps → B.Agree l l' → read n l (B.named ps) = some (e, rest) →
    ∃ qs e', B.Fits false qs ∧ rest = B.named qs ∧ B.Agree e e' ∧
      (B.filled qs).length ≤ (B.filled ps).length ∧
      ∀ m, height + 20 * (B.filled ps).length ≤ m + 20 * (B.filled qs).length →
        read m l' (B.filled ps) = some (e', B.filled qs)

/-- Whether the operators of precedence `least` and above go on with a line. -/
def Continues (least : Nat) (ps : List Part) : Prop :=
  ∃ s op precedence qs, ps = .operator s :: qs ∧ binaryOp? s = some (op, precedence) ∧
    least ≤ precedence

theorem readArithmeticRest_stop {least : Nat} (h : B.Fits false ps) (hc : ¬ Continues least ps)
    (hole : List Lexeme) (l : Term) :
    readArithmeticRest (n + 1) least l (line hole ps) = some (l, line hole ps) := by
  cases h with
  | nil =>
    have hline : line hole [] = [.newline] := rfl
    rw [hline, readArithmeticRest]
    intro s ts' e
    cases e
  | @closing ps _ =>
    have hline : line hole (.closing :: ps) = .symbol ")" :: line hole ps := rfl
    rw [hline, readArithmeticRest]
    rfl
  | @operator s ps hs hps =>
    have hline : line hole (.operator s :: ps) = .symbol s :: line hole ps := rfl
    rw [hline, readArithmeticRest]
    cases hb : binaryOp? s with
    | none => rfl
    | some p =>
      obtain ⟨op, precedence⟩ := p
      have hlt : precedence < least := by
        by_cases hle : least ≤ precedence
        · exact absurd ⟨s, op, precedence, ps, rfl, hb, hle⟩ hc
        · omega
      simp only [if_pos hlt]

theorem readArithmeticRest_operator {least precedence : Nat} {op : BinaryOp}
    (hs : binaryOp? s = some (op, precedence)) (h : least ≤ precedence) (l : Term) :
    readArithmeticRest (n + 1) least l (.symbol s :: ts) =
      (readArithmetic n (precedence + 1) ts).bind fun p =>
        readArithmeticRest n least (.binary op l p.1) p.2 := by
  rw [readArithmeticRest]
  simp only [hs, if_neg (Nat.not_lt.2 h)]
  rfl

theorem arithmetic_rest
    (ha : ∀ least, B.Follows (B.Fits true) 4 (fun n => readArithmetic n least) n)
    (hr : ∀ least, B.FollowsRest 1 (fun n => readArithmeticRest n least) n) (least : Nat) :
    B.FollowsRest 1 (fun n => readArithmeticRest n least) (n + 1) := by
  intro ps l l' e rest hps hl h
  by_cases hc : Continues least ps
  · obtain ⟨s, op, precedence, ps, rfl, hs, hle⟩ := hc
    have hps : B.Fits true ps := by
      cases hps with
      | operator _ h => exact h
    simp only at h
    rw [named_operator, readArithmeticRest_operator hs hle] at h
    obtain ⟨⟨r, rest₁⟩, h₁, h⟩ := Option.bind_eq_some_iff.1 h
    obtain ⟨qs, r', hqs, rfl, hr', hlt, hm⟩ := ha (precedence + 1) ps r rest₁ hps h₁
    obtain ⟨rs, e', hrs, rfl, he, hle', hm'⟩ := hr least qs _ _ e rest hqs (hl.binary op hr') h
    rw [filled_operator, List.length_cons]
    refine ⟨rs, e', hrs, rfl, he, by omega, fun m hle₁ => ?_⟩
    obtain ⟨m, rfl⟩ : ∃ m', m = m' + 1 := ⟨m - 1, by omega⟩
    have hright := hm m (by omega)
    have hmore := hm' m (by omega)
    simp only at hright hmore ⊢
    rw [readArithmeticRest_operator hs hle, hright, Option.bind_some, hmore]
  · have hn := (readArithmeticRest_stop (n := n) hps hc [.word B.name] l).symm.trans h
    cases hn
    refine ⟨ps, l', hps, rfl, hl, Nat.le_refl _, fun m hle => ?_⟩
    obtain ⟨m, rfl⟩ : ∃ m', m = m' + 1 := ⟨m - 1, by omega⟩
    exact readArithmeticRest_stop hps hc _ l'

theorem arithmetic (hf : B.Follows (B.Fits true) 3 readFactor n)
    (hr : ∀ least, B.FollowsRest 1 (fun n => readArithmeticRest n least) n) (least : Nat) :
    B.Follows (B.Fits true) 4 (fun n => readArithmetic n least) (n + 1) := by
  intro ps e rest hps h
  simp only at h
  rw [readArithmetic] at h
  obtain ⟨⟨l, rest₁⟩, h₁, h⟩ := Option.bind_eq_some_iff.1 h
  obtain ⟨qs, l', hqs, rfl, hl, hlt, hm⟩ := hf ps l rest₁ hps h₁
  obtain ⟨rs, e', hrs, rfl, he, hle, hm'⟩ := hr least qs l l' e rest hqs hl h
  refine ⟨rs, e', hrs, rfl, he, by omega, fun m hle₁ => ?_⟩
  obtain ⟨m, rfl⟩ : ∃ m', m = m' + 1 := ⟨m - 1, by omega⟩
  have hleft := hm m (by omega)
  have hmore := hm' m (by omega)
  simp only at hmore ⊢
  rw [readArithmetic, hleft]
  exact hmore

/-- The comparison that a line goes on with, if there is one, does not depend on its holes. -/
theorem compareOp?_line (h : B.Fits false ps) :
    (∀ hole, compareOp? (line hole ps) = none) ∨
      ∃ s op qs, ps = .operator s :: qs ∧ B.Fits true qs ∧
        ∀ ts, compareOp? (.symbol s :: ts) = some (op, ts) := by
  cases h with
  | nil => exact .inl fun _ => rfl
  | closing => exact .inl fun _ => rfl
  | operator hs h =>
    simp only [operators, List.mem_cons, List.not_mem_nil, or_false] at hs
    rcases hs with
      rfl | rfl | rfl | rfl | rfl | rfl | rfl | rfl | rfl | rfl | rfl | rfl | rfl
    iterate 7 exact .inl fun _ => rfl
    all_goals exact .inr ⟨_, _, _, rfl, h, fun _ => rfl⟩

/-- What is read of a chain of comparisons with the name is matched by what is read with the value,
after operands of the same values. -/
def FollowsChain (B : Binding) (n : Nat) : Prop :=
  ∀ ps ops done done' ops₁ es rest, B.Fits false ps → List.Forall₂ B.Agree done done' →
    readComparisons n ops done (B.named ps) = some (ops₁, es, rest) →
      ∃ qs es', B.Fits false qs ∧ rest = B.named qs ∧ List.Forall₂ B.Agree es es' ∧
        (B.filled qs).length ≤ (B.filled ps).length ∧
        ∀ m, 1 + 20 * (B.filled ps).length ≤ m + 20 * (B.filled qs).length →
          readComparisons m ops done' (B.filled ps) = some (ops₁, es', B.filled qs)

theorem comparisons (ha : B.Follows (B.Fits true) 4 (fun n => readArithmetic n 1) n)
    (hc : B.FollowsChain n) : B.FollowsChain (n + 1) := by
  intro ps ops done done' ops₁ es rest hps hdone h
  rw [readComparisons] at h
  obtain hnone | ⟨s, op, ps, rfl, hps, hop⟩ := compareOp?_line hps
  · rw [named, hnone] at h
    cases h
    refine ⟨ps, done'.reverse, hps, rfl, List.forall₂_reverse_iff.2 hdone, Nat.le_refl _,
      fun m hle => ?_⟩
    obtain ⟨m, rfl⟩ : ∃ m', m = m' + 1 := ⟨m - 1, by omega⟩
    rw [readComparisons, filled, hnone]
  · rw [named_operator, hop] at h
    obtain ⟨⟨e, rest₁⟩, h₁, h⟩ := Option.bind_eq_some_iff.1 h
    obtain ⟨qs, e', hqs, rfl, he, hlt, hm⟩ := ha ps e rest₁ hps h₁
    obtain ⟨rs, es', hrs, rfl, hes, hle, hm'⟩ := hc qs _ _ _ ops₁ es rest hqs (hdone.cons he) h
    rw [filled_operator, List.length_cons]
    refine ⟨rs, es', hrs, rfl, hes, by omega, fun m hle₁ => ?_⟩
    obtain ⟨m, rfl⟩ : ∃ m', m = m' + 1 := ⟨m - 1, by omega⟩
    have hread := hm m (by omega)
    have hmore := hm' m (by omega)
    simp only at hread
    rw [readComparisons, hop]
    simp only [hread, Option.bind_eq_bind, Option.bind_some, hmore]

theorem readInversion_eq (h : StartsOperand ts) : readInversion (n + 1) ts =
    (readArithmetic n 1 ts).bind fun p =>
      match compareOp? p.2 with
      | none => some p
      | some _ => (readComparisons n [] [] p.2).map fun q => (.compare p.1 q.1 q.2.1, q.2.2) := by
  rw [readInversion]
  · cases readArithmetic n 1 ts with
    | none => rfl
    | some p =>
      simp only [Option.bind_eq_bind, Option.bind_some]
      cases compareOp? p.2 with
      | none => rfl
      | some _ => cases readComparisons n [] [] p.2 <;> rfl
  · exact h.ne_word (by decide)

theorem inversion (ha : B.Follows (B.Fits true) 4 (fun n => readArithmetic n 1) n)
    (hc : B.FollowsChain n) : B.Follows (B.Fits true) 5 readInversion (n + 1) := by
  intro ps e rest hps h
  rw [readInversion_eq (startsOperand_named hps)] at h
  obtain ⟨⟨l, rest₁⟩, h₁, h⟩ := Option.bind_eq_some_iff.1 h
  obtain ⟨qs, l', hqs, rfl, hl, hlt, hm⟩ := ha ps l rest₁ hps h₁
  obtain hnone | ⟨s, op, qs', rfl, -, hop⟩ := compareOp?_line hqs
  · rw [named, hnone] at h
    cases h
    refine ⟨qs, l', hqs, rfl, hl, hlt, fun m hle => ?_⟩
    obtain ⟨m, rfl⟩ : ∃ m', m = m' + 1 := ⟨m - 1, by omega⟩
    have hread := hm m (by omega)
    simp only at hread
    rw [readInversion_eq (startsOperand_filled hps), hread, Option.bind_some, filled, hnone]
  · simp only [named_operator, hop] at h
    obtain ⟨⟨ops, es, rest₂⟩, h₂, h⟩ := Option.map_eq_some_iff.1 h
    cases h
    obtain ⟨rs, es', hrs, rfl, hes, hle, hm'⟩ := hc _ _ _ _ ops es rest₂ hqs .nil h₂
    refine ⟨rs, _, hrs, rfl, hl.compare ops hes, by omega, fun m hle₁ => ?_⟩
    obtain ⟨m, rfl⟩ : ∃ m', m = m' + 1 := ⟨m - 1, by omega⟩
    have hread := hm m (by omega)
    have hmore := hm' m (by omega)
    simp only at hread
    rw [readInversion_eq (startsOperand_filled hps), hread, Option.bind_some, filled_operator, hop]
    rw [filled_operator] at hmore
    simp only [hmore, Option.map_some]

/-! ## All readers -/

/-- The readers that an arithmetic text goes through, in at most `n` steps. -/
structure Readers (B : Binding) (n : Nat) : Prop where
  atom : B.Follows B.Unsigned 0 readAtom n
  primary : B.Follows B.Unsigned 1 readPrimary n
  await : B.Follows B.Unsigned 2 readAwait n
  factor : B.Follows (B.Fits true) 3 readFactor n
  arithmetic : ∀ least, B.Follows (B.Fits true) 4 (fun n => readArithmetic n least) n
  arithmeticRest : ∀ least, B.FollowsRest 1 (fun n => readArithmeticRest n least) n
  comparisons : B.FollowsChain n
  inversion : B.Follows (B.Fits true) 5 readInversion n
  conjunction : B.Follows (B.Fits true) 6 readConjunction n
  disjunction : B.Follows (B.Fits true) 7 readDisjunction n
  expression : B.Follows (B.Fits true) 8 readExpression n
  namedExpression : B.Follows (B.Fits true) 9 readNamedExpression n
  item : B.Follows (B.Fits true) 10 readItem n
  group : B.Follows (B.Fits true) 11 readGroup n
  starred : B.Follows (B.Fits true) 9 readStarred n
  expressions : B.Follows (B.Fits true) 10 readExpressions n

theorem Follows.zero {P : List Part → Prop} {height : Nat}
    {read : Nat → List Lexeme → Option (Term × List Lexeme)} (h : ∀ ts, read 0 ts = none) :
    B.Follows P height read 0 := by
  intro ps e rest _ hr
  rw [h] at hr
  cases hr

theorem readers_zero (B : Binding) : B.Readers 0 where
  atom := .zero fun _ => by rw [readAtom]
  primary := .zero fun _ => by rw [readPrimary]
  await := .zero fun _ => by rw [readAwait]
  factor := .zero fun _ => by rw [readFactor]
  arithmetic _ := .zero fun _ => by rw [readArithmetic]
  arithmeticRest _ := by
    intro ps l l' e rest _ _ h
    simp only [readArithmeticRest] at h
    cases h
  comparisons := by
    intro ps ops done done' ops₁ es rest _ _ h
    rw [readComparisons] at h
    cases h
  inversion := .zero fun _ => by rw [readInversion]
  conjunction := .zero fun _ => by rw [readConjunction]
  disjunction := .zero fun _ => by rw [readDisjunction]
  expression := .zero fun _ => by rw [readExpression]
  namedExpression := .zero fun _ => by rw [readNamedExpression]
  item := .zero fun _ => by rw [readItem]
  group := .zero fun _ => by rw [readGroup]
  starred := .zero fun _ => by rw [readStarred]
  expressions := .zero fun _ => by rw [readExpressions]

theorem Readers.succ (h : B.Readers n) : B.Readers (n + 1) where
  atom := Binding.atom h.group
  primary := Binding.primary h.atom
  await := h.primary.pass (fun _ h => h.1) fun _ _ hs _ => readAwait_pass hs
  factor := Binding.factor h.await h.factor
  arithmetic := Binding.arithmetic h.factor h.arithmeticRest
  arithmeticRest := arithmetic_rest h.arithmetic h.arithmeticRest
  comparisons := Binding.comparisons (h.arithmetic 1) h.comparisons
  inversion := Binding.inversion (h.arithmetic 1) h.comparisons
  conjunction := h.inversion.pass (fun _ h => h) fun _ _ _ hr => readConjunction_pass hr
  disjunction := h.conjunction.pass (fun _ h => h) fun _ _ _ hr => readDisjunction_pass hr
  expression := h.disjunction.pass (fun _ h => h) fun _ _ hs hr => readExpression_pass hs hr
  namedExpression :=
    h.expression.pass (fun _ h => h) fun _ _ hs hr => readNamedExpression_pass hs hr
  item := h.namedExpression.pass (fun _ h => h) fun _ _ hs _ => readItem_pass hs
  group := Binding.group h.item
  starred := h.expression.pass (fun _ h => h) fun _ _ hs _ => readStarred_pass hs
  expressions := h.starred.pass (fun _ h => h) fun _ _ _ hr => readExpressions_pass hr

/-- Every reader follows: one case for each reader, by induction on the steps that it may go
down. -/
theorem readers (B : Binding) (n : Nat) : B.Readers n := by
  induction n with
  | zero => exact readers_zero B
  | succ n ih => exact ih.succ

/-! ## Programs -/

variable {rest : List Lexeme} {statements more : List Statement} {st : Statement}

theorem filled_ne_word (h : B.Fits true ps) : ∀ w ts, B.filled ps ≠ .word w :: ts := by
  cases h with
  | hole =>
    by_cases hv : B.value < 0
    · rw [filled_hole_of_neg hv]
      exact nofun
    · rw [filled_hole_of_nonneg (Int.not_lt.1 hv)]
      exact nofun
  | numeral => exact nofun
  | opening => exact nofun
  | sign => exact nofun

/-- A line that is read with the name as one expression is read so with the value. -/
theorem line_follows (h : B.Fits true ps)
    (hr : Program.readLine n [] (B.named ps) = some (statements, rest)) :
    rest = [] ∧ ∃ e e', statements = [.expression e] ∧ B.Agree e e' ∧
      ∀ m, 11 + 20 * (B.filled ps).length ≤ m + 20 →
        Program.readLine m [] (B.filled ps) = some ([.expression e'], []) := by
  cases n with
  | zero =>
    rw [Program.readLine] at hr
    cases hr
  | succ n =>
    have hf := (B.readers n).expressions
    obtain ⟨e, he, rfl⟩ := (Program.readLine_iff (startsOperand_named h) (hf.stops h)).1 hr
    obtain ⟨qs, e', hq, hline, hagree, -, hm⟩ := hf ps e _ h he
    cases hq with
    | nil =>
      cases hline
      refine ⟨rfl, e, e', rfl, hagree, fun m hle => ?_⟩
      have hpos := B.length_filled_pos ps
      obtain ⟨m, rfl⟩ : ∃ m', m = m' + 1 := ⟨m - 1, by omega⟩
      have hread : readExpressions m (B.filled ps) = some (e', [.newline]) := hm m (by
        have : (B.filled []).length = 1 := rfl
        omega)
      refine (Program.readLine_iff (startsOperand_filled h) ?_).2 ⟨e', hread, rfl⟩
      rw [hread]
      exact stops_some .newline
    | closing => cases hline
    | operator => cases hline

theorem statements_follow (h : B.Fits true ps)
    (hr : Program.readStatements n (B.named ps) = some (statements, rest)) :
    statements = [.other "Match"] ∨ rest = [] ∧ ∃ e e', statements = [.expression e] ∧
      B.Agree e e' ∧ ∀ m, 12 + 20 * (B.filled ps).length ≤ m + 20 →
        Program.readStatements m (B.filled ps) = some ([.expression e'], []) := by
  cases n with
  | zero =>
    rw [Program.readStatements] at hr
    cases hr
  | succ n =>
    have hline : statements = [.other "Match"] ∨
        Program.readLine n [] (B.named ps) = some (statements, rest) := by
      by_cases hm : ∃ ts, B.named ps = .word "match" :: ts
      · obtain ⟨ts, hts⟩ := hm
        rw [hts] at hr ⊢
        exact Program.readStatements_match hr
      · have hm := not_exists.1 hm
        exact .inr ((Program.readStatements_eq (startsOperand_named h) hm).symm.trans hr)
    refine hline.imp_right fun hline => ?_
    obtain ⟨hrest, e, e', hs, he, hm⟩ := line_follows h hline
    refine ⟨hrest, e, e', hs, he, fun m hle => ?_⟩
    have hpos := B.length_filled_pos ps
    obtain ⟨m, rfl⟩ : ∃ m', m = m' + 1 := ⟨m - 1, by omega⟩
    rw [Program.readStatements_eq (startsOperand_filled h) (filled_ne_word h _)]
    exact hm m (by omega)

/-- A program that is read with the name, and starts with a statement that may have a value, is one
expression, and is so with the value. -/
theorem program_follows (h : B.Fits true ps)
    (hr : Program.readAll n [] (B.named ps) = some (st :: more)) (hst : st ≠ .other "Match") :
    ∃ e e', st = .expression e ∧ B.Agree e e' ∧
      ∀ m, 13 + 20 * (B.filled ps).length ≤ m + 20 →
        Program.readAll m [] (B.filled ps) = some [.expression e'] := by
  have hall {hole : List Lexeme} {k : Nat} : Program.readAll (k + 1) [] (line hole ps) =
      (Program.readStatements k (line hole ps)).bind fun p =>
        Program.readAll k (p.1.reverse ++ []) p.2 := by
    cases hl : line hole ps with
    | nil => simp [line] at hl
    | cons =>
      rw [Program.readAll]
      cases Program.readStatements k _ <;> rfl
  cases n with
  | zero =>
    cases hl : B.named ps with
    | nil => simp [named, line] at hl
    | cons =>
      rw [hl] at hr
      cases hr
  | succ n =>
    rw [named, hall] at hr
    obtain ⟨⟨statements, rest⟩, hs, hr⟩ := Option.bind_eq_some_iff.1 hr
    -- In both cases the first statement is the one just read, whatever is read after it.
    obtain rfl | ⟨rfl, e, e', rfl, he, hm⟩ := statements_follow h hs
    · obtain ⟨ss, hss⟩ := Program.readAll_isPrefix hr
      cases hss
      exact absurd rfl hst
    · obtain ⟨ss, hss⟩ := Program.readAll_isPrefix hr
      cases hss
      refine ⟨e, e', rfl, he, fun m hle => ?_⟩
      have hpos := B.length_filled_pos ps
      obtain ⟨m, rfl⟩ : ∃ m', m = m' + 1 := ⟨m - 1, by omega⟩
      have hread := hm m (by omega)
      rw [filled] at hread ⊢
      rw [hall, hread]
      simp [Program.readAll]

end Binding

end LSystem.Expr
