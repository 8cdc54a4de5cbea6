import LSystem.Proofs.Execution.Failing
import LSystem.Proofs.RuleTable.Held
import LSystem.Proofs.Template.Instantiation
import Mathlib.Data.List.Infix

/-! # Grammars whose rules produce no blocks

If calls expand to brackets and calls only, repeat blocks stand in the command alone, and nothing
that a block replays has a block in it (`expandOnce_flat`). A stream then needs two levels: the
command, and what its blocks replay. More levels make no difference, so the stream of every command
comes to an end (`stream_of_flat`). -/

namespace LSystem

open Text (Composed Tight)

variable {s : Text} {content count : Text}

/-- A text that is put together from pushes, pops and calls. -/
def Text.Flat (s : Text) : Prop :=
  Composed (fun p => ∃ t : Token, t.Formed ∧ (∀ content count, t ≠ .block content count) ∧
    p = t.text) s

theorem Text.flat_text {t : Token} (ht : t.Formed)
    (hb : ∀ content count, t ≠ .block content count) : Flat t.text :=
  .of ⟨t, ht, hb, rfl⟩

/-- A flat text has no gaps and no blocks. -/
theorem Text.flat_iff : Flat s ↔
    Tight s ∧ ∀ content count, .block content count ∉ tokenize s := by
  constructor
  · intro h
    refine ⟨h.tight ?_, fun content count hm => ?_⟩
    · rintro p ⟨t, ht, -, rfl⟩
      exact ht.tight
    · obtain ⟨pieces, rfl, hp⟩ := h
      induction pieces with
      | nil => simp at hm
      | cons p pieces ih =>
        obtain ⟨⟨t, ht, hb, rfl⟩, hps⟩ := List.forall_mem_cons.1 hp
        rw [List.flatten_cons, tokenize_text_append ht, List.mem_cons] at hm
        rcases hm with hm | hm
        · exact hb content count hm.symm
        · exact ih hps hm
  · rintro ⟨ht, hb⟩
    refine ⟨(tokenize s).map Token.text, ?_, fun p hp => ?_⟩
    · rw [← List.flatMap_def]
      exact ht.symm
    · obtain ⟨t, hm, rfl⟩ := List.mem_map.1 hp
      refine ⟨t, formed_of_mem_tokenize hm, ?_, rfl⟩
      rintro content count rfl
      exact hb content count hm

namespace Grammar

variable {g : Grammar} {command : Text} {ts : List Token}

/-- Whatever the rules of a grammar expand calls to is flat. -/
def Flat (g : Grammar) : Prop :=
  ∀ r ∈ g.table.rules, ∀ args s, r.instantiate g.evaluator args = .ok s → Text.Flat s

/-! ## Expansion -/

theorem expandToken_flat (hg : g.Flat) {t : Token} (ht : t ∈ tokenize command)
    (ih : ∀ content count, .block content count ∈ tokenize command →
      ∀ s, g.expandOnce content = .ok s → Text.Flat s)
    (h : g.expandToken t = .ok s) : Text.Flat s := by
  cases t with
  | push =>
    cases h
    exact Text.flat_text .push nofun
  | pop =>
    cases h
    exact Text.flat_text .pop nofun
  | block content count =>
    obtain ⟨n, -, ⟨-, rfl⟩ | ⟨-, s, hs, rfl⟩⟩ := expandToken_block_eq_ok h
    · exact .nil
    · exact (ih content count ht s hs).flatten_replicate n
  | call atom arguments =>
    obtain ⟨r, hr, h⟩ := bind_eq_ok_iff.1 h
    exact hg r (RuleTable.mem_rules_of_get hr) _ s h

/-- A command expands to brackets and calls, however deep its blocks are nested. -/
theorem expandOnce_flat (hg : g.Flat) (h : g.expandOnce command = .ok s) : Text.Flat s := by
  induction command using Token.content_induction generalizing s with
  | h command ih =>
    rw [expandOnce_eq, expandTokens_eq_mapM] at h
    obtain ⟨parts, hparts, h⟩ := bind_eq_ok_iff.1 h
    cases h
    refine .flatten fun p hp => ?_
    obtain ⟨t, ht, h⟩ := mem_of_mapM_eq_ok hparts hp
    exact expandToken_flat hg ht (fun content count hm s => ih content count hm) h

/-! ## Execution -/

/-- Only what blocks expand to is replayed. -/
theorem streamOf_congr {replayed replayed' : Text → EventStream}
    (h : ∀ content count s, .block content count ∈ ts → g.expandOnce content = .ok s →
      replayed s = replayed' s) : g.streamOf replayed ts = g.streamOf replayed' ts := by
  induction ts with
  | nil => rfl
  | cons t ts ih =>
    replace ih := ih fun content count s hm => h content count s (List.mem_cons_of_mem _ hm)
    cases t with
    | push => simp only [streamOf, ih]
    | pop => simp only [streamOf, ih]
    | block content count =>
      simp only [streamOf, ih]
      split
      · rfl
      · rfl
      · split
        · rfl
        · next s hs => rw [h content count s List.mem_cons_self hs]
    | call atom arguments => simp only [streamOf, ih]

/-- A flat text replays nothing. -/
theorem streamWithin_of_flat (hs : Text.Flat s) (depth : Nat) :
    g.streamWithin (depth + 1) s = g.streamWithin 1 s :=
  streamOf_congr fun content count _ hm _ => absurd hm ((Text.flat_iff.1 hs).2 content count)

theorem error?_streamWithin_of_flat (hs : Text.Flat s) :
    (g.streamWithin 1 s).FailsOnly g.evaluator.Throws :=
  streamOf_failsOnly (fun _ he => he) fun content count _ hm _ =>
    absurd hm ((Text.flat_iff.1 hs).2 content count)

/-- If the rules of a grammar produce no blocks, the stream of a command is bounded. What its blocks
replay is put together from brackets and calls, so two levels of nesting are as good as any larger
number; the stream does not give up for its nesting, and there are finitely many events after which
it has ended or failed. -/
theorem stream_of_flat (hg : g.Flat) (command : Text) :
    (∀ content count s, .block content count ∈ tokenize command →
      g.expandOnce content = .ok s → Text.Flat s) ∧
    (∀ depth, g.streamWithin (depth + 2) command = g.streamWithin 2 command) ∧
    g.stream command = g.streamWithin 2 command ∧
    ∃ events ending, ∀ limit, events.length < limit → g.Delivers command limit events ending := by
  have hflat : ∀ content count s, .block content count ∈ tokenize command →
      g.expandOnce content = .ok s → Text.Flat s := fun _ _ _ _ hs => expandOnce_flat hg hs
  have hlevels : ∀ depth, g.streamWithin (depth + 2) command = g.streamWithin 2 command :=
    fun depth => streamOf_congr fun content count s hm hs =>
      streamWithin_of_flat (hflat content count s hm hs) depth
  have hfails : (g.streamWithin 2 command).FailsOnly g.evaluator.Throws :=
    streamOf_failsOnly (fun _ he => he) fun content count s hm hs =>
      error?_streamWithin_of_flat (hflat content count s hm hs)
  refine ⟨hflat, hlevels, hlevels (nestingLimit - 2), (g.streamWithin 2 command).events,
    (g.streamWithin 2 command).error?, fun limit hl => ⟨fun h => (hfails _ h).2 rfl, 2, ?_⟩⟩
  rw [EventStream.collect_eq, EventStream.events_take, EventStream.error?_take, if_pos hl,
    List.take_of_length_le (Nat.le_of_lt hl)]
  rfl

/-- A rule that goes on at two places. -/
def doubler : Rule where
  atom := ['D']
  parameters := [['x']]
  branches := [⟨"x<=0".toList, "[]".toList⟩]
  fallback := "[D<0>]D<0>".toList

/-- The grammar of this rule. -/
def doubling : Grammar where
  table := { made := [doubler], held := [0] }

theorem doubling_flat : doubling.Flat := by
  intro r hr args s h
  obtain rfl : r = doubler := by simpa [doubling, RuleTable.rules, RuleTable.rule?] using hr
  obtain ⟨template, ht, h⟩ := Rule.instantiate_of_not_isInfix (by decide) h
  have hs : ∀ template ∈ doubler.templates,
      evaluateArguments {} template >>= unrollBlocks {} = .ok template := by decide +kernel
  cases (hs template ht).symm.trans h
  refine Text.flat_iff.2 ⟨?_, fun content count hm => ?_⟩
  · have htight : ∀ template ∈ doubler.templates, Tight template := by decide +kernel
    exact htight s ht
  · obtain rfl | rfl : s = doubler.fallback ∨ s = "[]".toList := by
      simpa [Rule.templates, doubler] using ht
    · have hts : tokenize doubler.fallback =
          [.push, .call ['D'] ['0'], .pop, .call ['D'] ['0']] := by decide +kernel
      rw [hts] at hm
      simp at hm
    · have hts : tokenize "[]".toList = [.push, .pop] := by decide +kernel
      rw [hts] at hm
      simp at hm

theorem stream_of_flat_doubling :
    doubling.Flat ∧ doubling.stream "{{D<1>}(2)}(1+1)".toList =
        doubling.streamWithin 2 "{{D<1>}(2)}(1+1)".toList ∧
      (doubling.stream "{{D<1>}(2)}(1+1)".toList).events.length = 16 ∧
      (doubling.stream "{{D<1>}(2)}(1+1)".toList).error? = none := by
  obtain ⟨-, -, hs, -⟩ := stream_of_flat doubling_flat "{{D<1>}(2)}(1+1)".toList
  refine ⟨doubling_flat, hs, ?_, ?_⟩
  · rw [hs]
    decide +kernel
  · rw [hs]
    decide +kernel

end Grammar

end LSystem
