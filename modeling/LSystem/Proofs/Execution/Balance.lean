import LSystem.Proofs.Execution.Failing
import LSystem.Proofs.Execution.Tracing
import LSystem.Proofs.RuleTable.Held
import LSystem.Proofs.Template.Instantiation

/-! # Balance of whole runs

If the templates of a grammar are well nested, so is everything that it expands a well-nested
command to, and its streams never pop more than they pushed. Both are shown for parts of a command
that lead from one number of open levels to another, `Text.Leads` for texts and `EventStream.Leads`
for streams: these parts can be put one after the other, and a well-nested part fits in at any
level. -/

namespace LSystem

open Text (Tight)

namespace Token

variable {d : Nat} {ts : List Token}

theorem push_ne_pop : Token.push ≠ .pop := nofun

theorem levels_block {content count : Text} :
    levels Token.push .pop d (.block content count :: ts) = levels .push .pop d ts :=
  levels_of_ne nofun nofun

theorem levels_call {atom arguments : Text} :
    levels Token.push .pop d (.call atom arguments :: ts) = levels .push .pop d ts :=
  levels_of_ne nofun nofun

end Token

namespace Text

/-- A text without gaps whose pushes and pops are nested, and so are those in each of its repeat
blocks. -/
inductive WellNested : Text → Prop where
  | intro {s : Text} : Tight s → Nested Token.push .pop (tokenize s) →
    (∀ content count, .block content count ∈ tokenize s → WellNested content) → WellNested s

/-- A text that leads from `d` open levels to `d'`, with well-nested repeat blocks. -/
structure Leads (d d' : Nat) (s : Text) : Prop where
  tight : Tight s
  levels : levels Token.push .pop d (tokenize s) = some d'
  blocks : ∀ content count, .block content count ∈ tokenize s → WellNested content

variable {d d' d'' : Nat} {s t : Text}

theorem wellNested_iff_leads : WellNested s ↔ Leads 0 0 s := by
  constructor
  · rintro ⟨ht, hn, hb⟩
    exact ⟨ht, (nested_iff_levels Token.push_ne_pop).1 hn, hb⟩
  · rintro ⟨ht, hl, hb⟩
    exact ⟨ht, (nested_iff_levels Token.push_ne_pop).2 hl, hb⟩

theorem WellNested.of_tokens (ts : List Token) (ht : Tight s) (hts : tokenize s = ts)
    (hl : LSystem.levels Token.push .pop 0 ts = some 0)
    (hb : ∀ content count, .block content count ∈ ts → WellNested content) : WellNested s :=
  wellNested_iff_leads.2 ⟨ht, by rw [hts, hl], by rwa [hts]⟩

theorem WellNested.leads (h : WellNested s) (d : Nat) : Leads d d s := by
  obtain ⟨ht, hl, hb⟩ := wellNested_iff_leads.1 h
  exact ⟨ht, by simpa using levels_add hl d, hb⟩

namespace Leads

theorem nil : Leads d d [] := ⟨.nil, rfl, nofun⟩

theorem push : Leads d (d + 1) ['['] := by
  have ht : tokenize ['['] = [.push] := rfl
  refine ⟨rfl, by rw [ht, levels_up, levels_nil], fun content count hm => ?_⟩
  simp [ht] at hm

theorem pop : Leads (d + 1) d [']'] := by
  have ht : tokenize [']'] = [.pop] := rfl
  refine ⟨rfl, by rw [ht, levels_down_succ Token.push_ne_pop, levels_nil],
    fun content count hm => ?_⟩
  simp [ht] at hm

theorem append (hs : Leads d d' s) (ht : Leads d' d'' t) : Leads d d'' (s ++ t) := by
  refine ⟨hs.tight.append ht.tight, ?_, fun content count hm => ?_⟩
  · rw [hs.tight.tokenize_append, levels_append, hs.levels, Option.bind_some, ht.levels]
  · rw [hs.tight.tokenize_append] at hm
    rcases List.mem_append.1 hm with hm | hm
    · exact hs.blocks content count hm
    · exact ht.blocks content count hm

theorem flatten_replicate (h : Leads d d s) (n : Nat) : Leads d d (List.replicate n s).flatten := by
  induction n with
  | zero => exact nil
  | succ n ih =>
    rw [List.replicate_succ, List.flatten_cons]
    exact h.append ih

end Leads

end Text

/-- A stream that leads from `d` open levels to `d'`, unless it fails on the way. -/
def EventStream.Leads (d d' : Nat) (s : EventStream) : Prop :=
  ∃ x, levels Event.push .pop d s.events = some x ∧ (s.error? = none → x = d')

namespace EventStream.Leads

variable {d d' d'' : Nat} {s : EventStream} {f : Unit → EventStream}

theorem done : Leads d d done := ⟨d, rfl, fun _ => rfl⟩

theorem fail (e : Error) : Leads d d' (fail e) := ⟨d, rfl, nofun⟩

theorem push (h : Leads (d + 1) d' (f ())) : Leads d d' (next .push f) := by
  simpa only [Leads, events_next, error?_next, levels_up] using h

theorem pop (h : Leads d d' (f ())) : Leads (d + 1) d' (next .pop f) := by
  simpa only [Leads, events_next, error?_next, levels_down_succ Event.push_ne_pop] using h

theorem call {rule : Rule} {args : List Text} (h : Leads d d' (f ())) :
    Leads d d' (next (.call rule args) f) := by
  simpa only [Leads, events_next, error?_next, Event.levels_call] using h

theorem add (h : Leads d d' s) (k : Nat) : Leads (d + k) (d' + k) s := by
  obtain ⟨x, hx, he⟩ := h
  exact ⟨x + k, levels_add hx k, fun h0 => by rw [he h0]⟩

theorem append (hs : Leads d d' s) (hf : Leads d' d'' (f ())) : Leads d d'' (s.append f) := by
  obtain ⟨x, hx, he⟩ := hs
  cases hs : s.error? with
  | none =>
    obtain rfl := he hs
    obtain ⟨y, hy, he'⟩ := hf
    refine ⟨y, ?_, fun h0 => he' ?_⟩
    · rw [events_append hs, levels_append, hx, Option.bind_some, hy]
    · rwa [error?_append, hs, Option.none_or] at h0
  | some e =>
    refine ⟨x, by rw [events_append_of_error? hs, hx], fun h0 => ?_⟩
    rw [error?_append, hs, Option.some_or] at h0
    cases h0

theorem replay (hs : Leads d d s) (hf : Leads d d' (f ())) (n : Nat) :
    Leads d d' (s.replay n f) := by
  induction n with
  | zero => exact hf
  | succ n ih =>
    rw [replay_succ]
    exact hs.append ih

end EventStream.Leads

namespace Grammar

open Text (WellNested)

variable {g : Grammar} {d d' : Nat} {command s : Text} {ts : List Token}

/-- All that the rules of a grammar expand calls to is well nested. -/
def WellNested (g : Grammar) : Prop :=
  ∀ r ∈ g.table.rules, ∀ args s, r.instantiate g.evaluator args = .ok s → Text.WellNested s

section
variable (hg : g.WellNested)
include hg

/-! ## Expansion -/

/-- Tokens lead from level to level as their expansions do. -/
theorem expandTokens_leads (hl : levels Token.push .pop d ts = some d')
    (hb : ∀ content count, .block content count ∈ ts →
      ∀ o, g.expandOnce content = .ok o → Text.WellNested o)
    (h : g.expandTokens ts = .ok s) : s.Leads d d' := by
  induction ts generalizing d s with
  | nil =>
    cases hl
    cases h
    exact .nil
  | cons t ts ih =>
    obtain ⟨a, ha, h⟩ := bind_eq_ok_iff.1 h
    obtain ⟨b, hb', h⟩ := bind_eq_ok_iff.1 h
    cases h
    have rest {x : Nat} (hx : levels Token.push .pop x ts = some d') : b.Leads x d' :=
      ih hx (fun content count hm => hb content count (List.mem_cons_of_mem _ hm)) hb'
    cases t with
    | push =>
      rw [levels_up] at hl
      cases ha
      exact Text.Leads.push.append (rest hl)
    | pop =>
      obtain ⟨k, rfl, hk⟩ := (levels_down_eq_some Token.push_ne_pop).1 hl
      cases ha
      exact Text.Leads.pop.append (rest hk)
    | block content count =>
      rw [Token.levels_block] at hl
      refine Text.Leads.append ?_ (rest hl)
      obtain ⟨n, -, ⟨-, rfl⟩ | ⟨-, o, ho, rfl⟩⟩ := expandToken_block_eq_ok ha
      · exact .nil
      · exact ((hb content count List.mem_cons_self o ho).leads d).flatten_replicate n
    | call atom arguments =>
      rw [Token.levels_call] at hl
      refine Text.Leads.append ?_ (rest hl)
      obtain ⟨r, hr, ha⟩ := bind_eq_ok_iff.1 ha
      exact (hg r (RuleTable.mem_rules_of_get hr) _ a ha).leads d

theorem expandOnce_wellNested (hc : Text.WellNested command) (h : g.expandOnce command = .ok s) :
    Text.WellNested s := by
  induction hc generalizing s with
  | @intro command ht hn hb ih =>
    rw [expandOnce_eq] at h
    rw [Text.wellNested_iff_leads]
    exact expandTokens_leads hg ((nested_iff_levels Token.push_ne_pop).1 hn)
      (fun content count hm o => ih content count hm) h

theorem rounds_wellNested {n : Nat} (hc : Text.WellNested command)
    (h : g.rounds n command = .ok s) : Text.WellNested s := by
  induction n generalizing command with
  | zero =>
    cases h
    exact hc
  | succ n ih =>
    obtain ⟨a, ha, h⟩ := bind_eq_ok_iff.1 h
    exact ih (expandOnce_wellNested hg hc ha) h

theorem expand_wellNested {n : Int} (hc : Text.WellNested command)
    (h : g.expand command n = .ok s) : Text.WellNested s := by
  unfold expand at h
  split at h
  · cases h
  · exact rounds_wellNested hg hc h

/-! ## Execution -/

theorem streamOf_leads {replayed : Text → EventStream}
    (hr : ∀ s, Text.WellNested s → (replayed s).Leads 0 0)
    (hl : levels Token.push .pop d ts = some d')
    (hb : ∀ content count, .block content count ∈ ts → Text.WellNested content) :
    (g.streamOf replayed ts).Leads d d' := by
  induction ts generalizing d with
  | nil =>
    cases hl
    exact .done
  | cons t ts ih =>
    have rest {x : Nat} (hx : levels Token.push .pop x ts = some d') :
        (g.streamOf replayed ts).Leads x d' :=
      ih hx fun content count hm => hb content count (List.mem_cons_of_mem _ hm)
    cases t with
    | push =>
      rw [levels_up] at hl
      exact .push (rest hl)
    | pop =>
      obtain ⟨k, rfl, hk⟩ := (levels_down_eq_some Token.push_ne_pop).1 hl
      exact .pop (rest hk)
    | block content count =>
      rw [Token.levels_block] at hl
      simp only [streamOf]
      split
      · exact .fail _
      · exact rest hl
      · split
        · exact .fail _
        · next o ho =>
          have hw := hr o (expandOnce_wellNested hg (hb content count List.mem_cons_self) ho)
          refine .replay ?_ (rest hl) _
          simpa using hw.add d
    | call atom arguments =>
      rw [Token.levels_call] at hl
      simp only [streamOf]
      split
      · exact .fail _
      · next ev he =>
        simp only [invoke, bind_eq_ok_iff] at he
        obtain ⟨r, -, args, -, _, -, he⟩ := he
        cases he
        exact .call (rest hl)

theorem streamWithin_leads (depth : Nat) (hc : Text.WellNested command) :
    (g.streamWithin depth command).Leads 0 0 := by
  induction depth generalizing command with
  | zero => exact .fail _
  | succ depth ih =>
    cases hc with
    | intro ht hn hb =>
      exact streamOf_leads hg (fun s => ih) ((nested_iff_levels Token.push_ne_pop).1 hn) hb

/-- Balance is preserved by whole runs: what a well-nested command is expanded to is well nested,
its stream has no pop in excess, also if it fails later on, and no push in excess unless it fails,
and a trace follows it to its end. -/
theorem run_balanced (hc : Text.WellNested command) {n : Int} (h : g.expand command n = .ok s) :
    Text.WellNested s ∧
    (∀ depth, (∀ p, p <+: (g.streamWithin depth s).events → p.count .pop ≤ p.count .push) ∧
      ((g.streamWithin depth s).error? = none →
        (g.streamWithin depth s).events.count .pop = (g.streamWithin depth s).events.count .push)) ∧
    (g.execute Trace.consumer {} s).error? ≠ some (.config .emptyStack) ∧
    ((g.execute Trace.consumer {} s).error? = none →
      (g.execute Trace.consumer {} s).state.depth = 0) := by
  have hs := expand_wellNested hg hc h
  refine ⟨hs, fun depth => ?_, ?_⟩
  · obtain ⟨x, hx, he⟩ := streamWithin_leads hg depth hs
    constructor
    · exact (levels_isSome_iff Event.push_ne_pop (d := 0)).1 (by rw [hx]; rfl)
    · intro h0
      obtain rfl := he h0
      exact ((nested_iff_levels Event.push_ne_pop).2 hx).closed
  · obtain ⟨x, hx, he⟩ := streamWithin_leads hg nestingLimit hs
    obtain ⟨t, ht, rfl⟩ := Trace.runFrom_of_levels (t := {}) hx 0
    have hrun : g.execute Trace.consumer {} s = ⟨t, 0 + (g.stream s).events.length,
      (g.stream s).error?⟩ := ht
    rw [hrun]
    refine ⟨fun h0 => ?_, he⟩
    exact Evaluator.Raises.ne_config (g.streamWithin_raises nestingLimit s _ h0) _ rfl

end

/-- A rule that branches once. -/
def forker : Rule where
  atom := ['F']
  parameters := [['x']]
  branches := [⟨"x<=0".toList, "[]".toList⟩]
  fallback := "[\x7b\x7bF<0>[]\x7d(2)\x7d(1)]".toList

/-- The grammar of this rule. -/
def forking : Grammar where
  table := { made := [forker], held := [0] }

theorem wellNested_forking_fallback : Text.WellNested "[{F<0>[]}(2)]".toList := by
  refine .of_tokens [.push, .block "F<0>[]".toList ['2'], .pop] (by decide)
    (by decide +kernel) (by decide) fun content count hm => ?_
  obtain ⟨rfl, -⟩ := by simpa using hm
  exact .of_tokens [.call ['F'] ['0'], .push, .pop] (by decide) (by decide +kernel)
    (by decide) (by simp)

theorem forking_wellNested : forking.WellNested := by
  intro r hr args s h
  obtain rfl : r = forker := by simpa [forking, RuleTable.rules, RuleTable.rule?] using hr
  obtain ⟨template, ht, h⟩ := Rule.instantiate_of_not_isInfix (by decide) h
  obtain rfl | rfl : template = forker.fallback ∨ template = "[]".toList := by
    simpa [Rule.templates, forker] using ht
  · have hs : evaluateArguments {} forker.fallback >>= unrollBlocks {} =
        .ok "[{F<0>[]}(2)]".toList := by decide +kernel
    cases hs.symm.trans h
    exact wellNested_forking_fallback
  · cases h
    exact .of_tokens [.push, .pop] (by decide) (by decide) (by decide) (by simp)

theorem run_balanced_forking :
    forking.expand "F<1>".toList 1 = .ok "[{F<0>[]}(2)]".toList ∧
      Text.WellNested "[{F<0>[]}(2)]".toList ∧
      (forking.execute Trace.consumer {} "[{F<0>[]}(2)]".toList).error? = none ∧
      (forking.execute Trace.consumer {} "[{F<0>[]}(2)]".toList).state.depth = 0 := by
  have hc : Text.WellNested "F<1>".toList :=
    .of_tokens [.call ['F'] ['1']] (by decide) (by decide +kernel) (by decide) (by simp)
  have he : forking.expand "F<1>".toList 1 = .ok "[{F<0>[]}(2)]".toList := by decide +kernel
  have hd : (forking.execute Trace.consumer {} "[{F<0>[]}(2)]".toList).error? = none := by
    decide +kernel
  obtain ⟨hw, -, -, h0⟩ := run_balanced forking_wellNested hc he
  exact ⟨he, hw, hd, h0 hd⟩

end Grammar

end LSystem
