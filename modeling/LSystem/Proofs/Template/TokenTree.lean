import LSystem.Proofs.Token.Tight

/-! # Token trees

A token tree holds the tokens of a text, with the contents of its blocks taken apart as well. The
tree of a clean text, in which no character is skipped at any level, is written as that text
(`Clean.text_ofText`). Conversely the tokens of the text of a tree are those of the tree, if its
calls and counts are well formed and hold no braces (`tokenize_text`). -/

namespace LSystem

open Token (Balanced balanced_of_not_mem)

/-- A list of tokens, in which the content of a block is such a list again. -/
inductive TokenTree where
  | nil
  | push (rest : TokenTree)
  | pop (rest : TokenTree)
  | block (content : TokenTree) (count : Text) (rest : TokenTree)
  | call (atom arguments : Text) (rest : TokenTree)
  deriving DecidableEq, Repr

namespace TokenTree

variable {T : TokenTree} {P P' : Text → Text → Prop} {Q Q' : Text → Prop}

/-- How a tree is written. -/
def text : TokenTree → Text
  | nil => []
  | push rest => '[' :: rest.text
  | pop rest => ']' :: rest.text
  | block content count rest => '{' :: (content.text ++ '}' :: '(' :: (count ++ ')' :: rest.text))
  | call atom arguments rest => atom ++ '<' :: (arguments ++ '>' :: rest.text)

/-- The tokens at the top of a tree. -/
def tokens : TokenTree → List Token
  | nil => []
  | push rest => .push :: rest.tokens
  | pop rest => .pop :: rest.tokens
  | block content count rest => .block content.text count :: rest.tokens
  | call atom arguments rest => .call atom arguments :: rest.tokens

/-- Every call of a tree satisfies `P`, and every count satisfies `Q`, at all levels. -/
def All (P : Text → Text → Prop) (Q : Text → Prop) : TokenTree → Prop
  | nil => True
  | push rest => rest.All P Q
  | pop rest => rest.All P Q
  | block content count rest => Q count ∧ content.All P Q ∧ rest.All P Q
  | call atom arguments rest => P atom arguments ∧ rest.All P Q

instance decidableAll [∀ a b, Decidable (P a b)] [∀ k, Decidable (Q k)] :
    (T : TokenTree) → Decidable (T.All P Q)
  | nil => .isTrue trivial
  | push rest => decidableAll rest
  | pop rest => decidableAll rest
  | block content count rest =>
    have := decidableAll content
    have := decidableAll rest
    inferInstanceAs (Decidable (Q count ∧ content.All P Q ∧ rest.All P Q))
  | call atom arguments rest =>
    have := decidableAll rest
    inferInstanceAs (Decidable (P atom arguments ∧ rest.All P Q))

/-- A tree with `f` applied to its argument lists and `h` to its counts, at all levels. -/
def map (f h : Text → Text) : TokenTree → TokenTree
  | nil => nil
  | push rest => push (rest.map f h)
  | pop rest => pop (rest.map f h)
  | block content count rest => block (content.map f h) (h count) (rest.map f h)
  | call atom arguments rest => call atom (f arguments) (rest.map f h)

theorem textOf_tokens (T : TokenTree) : Token.textOf T.tokens = T.text := by
  induction T with
  | nil => rfl
  | push rest ih => simp [tokens, text, ih, Token.text]
  | pop rest ih => simp [tokens, text, ih, Token.text]
  | block content count rest _ ih => simp [tokens, text, ih, Token.text]
  | call atom arguments rest ih => simp [tokens, text, ih, Token.text]

theorem All.imp (hT : T.All P Q) (hP : ∀ a b, P a b → P' a b) (hQ : ∀ k, Q k → Q' k) :
    T.All P' Q' := by
  induction T with
  | nil => trivial
  | push rest ih => exact ih hT
  | pop rest ih => exact ih hT
  | block content count rest ihc ih => exact ⟨hQ _ hT.1, ihc hT.2.1, ih hT.2.2⟩
  | call atom arguments rest ih => exact ⟨hP _ _ hT.1, ih hT.2⟩

theorem All.and (hT : T.All P Q) (hT' : T.All P' Q') :
    T.All (fun a b => P a b ∧ P' a b) (fun k => Q k ∧ Q' k) := by
  induction T with
  | nil => trivial
  | push rest ih => exact ih hT hT'
  | pop rest ih => exact ih hT hT'
  | block content count rest ihc ih =>
    exact ⟨⟨hT.1, hT'.1⟩, ihc hT.2.1 hT'.2.1, ih hT.2.2 hT'.2.2⟩
  | call atom arguments rest ih => exact ⟨⟨hT.1, hT'.1⟩, ih hT.2 hT'.2⟩

theorem all_map_iff {f h : Text → Text} :
    (T.map f h).All P Q ↔ T.All (fun a b => P a (f b)) (fun k => Q (h k)) := by
  induction T with
  | nil => rfl
  | push rest ih => exact ih
  | pop rest ih => exact ih
  | block content count rest ihc ih => simp only [map, All, ihc, ih]
  | call atom arguments rest ih => simp only [map, All, ih]

/-! ## Trees that are read back -/

/-- Calls and counts are well formed and hold no braces. -/
def Solid (T : TokenTree) : Prop :=
  T.All
    (fun atom arguments => (Token.call atom arguments).Formed ∧ '{' ∉ arguments ∧ '}' ∉ arguments)
    (fun count => (count ≠ [] ∧ Balanced '(' ')' count) ∧ '{' ∉ count ∧ '}' ∉ count)

theorem Solid.balanced_text (h : T.Solid) : Balanced '{' '}' T.text := by
  have hlr : '{' ≠ '}' := by decide
  induction T with
  | nil => exact balanced_of_not_mem hlr nofun nofun
  | push rest ih =>
    have hb : Balanced '{' '}' ['['] := balanced_of_not_mem hlr (by decide) (by decide)
    exact hb.append hlr (ih h)
  | pop rest ih =>
    have hb : Balanced '{' '}' [']'] := balanced_of_not_mem hlr (by decide) (by decide)
    exact hb.append hlr (ih h)
  | block content count rest ihc ih =>
    obtain ⟨⟨-, hl, hr⟩, hc, hrest⟩ := h
    have hcount : Balanced '{' '}' ('(' :: (count ++ [')'])) :=
      balanced_of_not_mem hlr (by simp [hl]) (by simp [hr])
    have := ((ihc hc).enclose hlr).append hlr (hcount.append hlr (ih hrest))
    simpa [text] using this
  | call atom arguments rest ih =>
    obtain ⟨⟨hf, hl, hr⟩, hrest⟩ := h
    cases hf with
    | call _ hw _ _ =>
    have hl' : '{' ∉ atom := fun hm => absurd (hw _ hm) (by decide)
    have hr' : '}' ∉ atom := fun hm => absurd (hw _ hm) (by decide)
    have hcall : Balanced '{' '}' (atom ++ '<' :: (arguments ++ ['>'])) :=
      balanced_of_not_mem hlr (by simp [hl, hl']) (by simp [hr, hr'])
    have := hcall.append hlr (ih hrest)
    simpa [text] using this

theorem Solid.formed (h : T.Solid) : ∀ t ∈ T.tokens, t.Formed := by
  induction T with
  | nil => exact nofun
  | push rest ih => exact List.forall_mem_cons.2 ⟨.push, ih h⟩
  | pop rest ih => exact List.forall_mem_cons.2 ⟨.pop, ih h⟩
  | block content count rest _ ih =>
    obtain ⟨⟨⟨hne, hb⟩, -⟩, hc, hrest⟩ := h
    exact List.forall_mem_cons.2 ⟨.block (Solid.balanced_text hc) hne hb, ih hrest⟩
  | call atom arguments rest ih => exact List.forall_mem_cons.2 ⟨h.1.1, ih h.2⟩

theorem Solid.tokenize_text (h : T.Solid) : tokenize T.text = T.tokens := by
  rw [← textOf_tokens, Text.tokenize_textOf h.formed]

/-! ## The tree of a text -/

/-- A tree with a token in front, given the tree of a content. -/
def cons (tree : Text → TokenTree) : Token → TokenTree → TokenTree
  | .push, rest => push rest
  | .pop, rest => pop rest
  | .block content count, rest => block (tree content) count rest
  | .call atom arguments, rest => call atom arguments rest

/-- The tree of a text. -/
def ofText (s : Text) : TokenTree :=
  (tokenize s).attach.foldr (fun t rest => match t with
    | ⟨.push, _⟩ => push rest
    | ⟨.pop, _⟩ => pop rest
    | ⟨.block content count, _⟩ => block (ofText content) count rest
    | ⟨.call atom arguments, _⟩ => call atom arguments rest) nil
termination_by s.length
decreasing_by exact Token.content_length_lt (by assumption)

theorem ofText_eq (s : Text) : ofText s = (tokenize s).foldr (cons ofText) nil := by
  rw [ofText]
  refine Eq.trans ?_ List.foldr_attach
  congr 1
  funext ⟨t, _⟩ rest
  cases t <;> rfl

theorem tokens_foldr_cons {tree : Text → TokenTree} {ts : List Token}
    (h : ∀ content count, .block content count ∈ ts → (tree content).text = content) :
    (ts.foldr (cons tree) nil).tokens = ts := by
  induction ts with
  | nil => rfl
  | cons t ts ih =>
    have ih := ih fun content count hm => h content count (List.mem_cons_of_mem _ hm)
    cases t with
    | push => simp only [List.foldr_cons, cons, tokens, ih]
    | pop => simp only [List.foldr_cons, cons, tokens, ih]
    | block content count =>
      simp only [List.foldr_cons, cons, tokens, ih, h content count List.mem_cons_self]
    | call => simp only [List.foldr_cons, cons, tokens, ih]

theorem all_foldr_cons {tree : Text → TokenTree} {ts : List Token}
    (hcall : ∀ atom arguments, .call atom arguments ∈ ts → P atom arguments)
    (hblock : ∀ content count, .block content count ∈ ts → Q count ∧ (tree content).All P Q) :
    (ts.foldr (cons tree) nil).All P Q := by
  induction ts with
  | nil => trivial
  | cons t ts ih =>
    have ih := ih (fun _ _ hm => hcall _ _ (List.mem_cons_of_mem _ hm))
      (fun _ _ hm => hblock _ _ (List.mem_cons_of_mem _ hm))
    cases t with
    | push => exact ih
    | pop => exact ih
    | block content count =>
      obtain ⟨hq, hc⟩ := hblock _ _ List.mem_cons_self
      exact ⟨hq, hc, ih⟩
    | call => exact ⟨hcall _ _ List.mem_cons_self, ih⟩

/-- The calls and counts of the tree of a text are well formed. The induction is on the length of
the text, which decreases towards the contents of blocks. -/
theorem all_ofText (s : Text) : (ofText s).All
    (fun atom arguments => (Token.call atom arguments).Formed)
    (fun count => count ≠ [] ∧ Balanced '(' ')' count) := by
  induction n : s.length using Nat.strongRecOn generalizing s with
  | ind n ih =>
    subst n
    rw [ofText_eq]
    refine all_foldr_cons (fun _ _ => formed_of_mem_tokenize) fun content count hm => ?_
    cases formed_of_mem_tokenize hm with
    | block _ hne hb => exact ⟨⟨hne, hb⟩, ih _ (Token.content_length_lt hm) content rfl⟩

end TokenTree

/-- No character is skipped in a text, nor in the contents of its blocks at any level. -/
inductive Clean : Text → Prop where
  | intro {s : Text} : s.Tight →
    (∀ content count, .block content count ∈ tokenize s → Clean content) → Clean s

theorem Clean.text_ofText {s : Text} (h : Clean s) : (TokenTree.ofText s).text = s := by
  induction h with
  | @intro s hs _ ih =>
    rw [← TokenTree.textOf_tokens, TokenTree.ofText_eq, TokenTree.tokens_foldr_cons ih]
    exact hs

end LSystem
