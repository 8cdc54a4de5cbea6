import LSystem.Proofs.Token.Reading

/-! # Texts without gaps

A text is tight if no character of it is skipped. Tight texts are the texts of lists of well-formed
tokens (`tight_iff`). No token forms or breaks at the end of a tight text, whatever follows
(`Tight.tokenize_append`). -/

namespace LSystem

open Token

variable {s a : Text} {ts us : List Token}

/-- No character of a text is skipped: the texts of its tokens join back to it. -/
def Text.Tight (s : Text) : Prop := textOf (tokenize s) = s

instance (s : Text) : Decidable s.Tight := inferInstanceAs (Decidable (_ = _))

namespace Text

theorem tokenize_textOf_append (h : ∀ t ∈ ts, t.Formed) (s : Text) :
    tokenize (textOf ts ++ s) = ts ++ tokenize s := by
  induction ts with
  | nil => rfl
  | cons t ts ih =>
    rw [textOf_cons, List.append_assoc, tokenize_text_append (h t List.mem_cons_self),
      ih fun u hu => h u (List.mem_cons_of_mem _ hu), List.cons_append]

theorem tokenize_textOf (h : ∀ t ∈ ts, t.Formed) : tokenize (textOf ts) = ts := by
  simpa using tokenize_textOf_append h []

theorem tight_textOf (h : ∀ t ∈ ts, t.Formed) : Tight (textOf ts) := by
  rw [Tight, tokenize_textOf h]

theorem tight_iff : Tight s ↔ ∃ ts, (∀ t ∈ ts, Formed t) ∧ s = textOf ts := by
  constructor
  · exact fun h => ⟨tokenize s, fun _ => formed_of_mem_tokenize, h.symm⟩
  · rintro ⟨ts, hts, rfl⟩
    exact tight_textOf hts

theorem Tight.nil : Tight [] := rfl

/-- What follows a tight text is read on its own. -/
theorem Tight.tokenize_append (h : Tight a) (s : Text) :
    tokenize (a ++ s) = tokenize a ++ tokenize s := by
  have := tokenize_textOf_append (fun _ => formed_of_mem_tokenize (s := a)) s
  rwa [h] at this

theorem Tight.append (ha : Tight a) (hs : Tight s) : Tight (a ++ s) := by
  rw [Tight, ha.tokenize_append, textOf_append, ha, hs]

theorem Tight.flatten_replicate (h : Tight s) (n : Nat) : Tight (List.replicate n s).flatten := by
  induction n with
  | zero => exact .nil
  | succ n ih =>
    rw [List.replicate_succ, List.flatten_cons]
    exact h.append ih

end Text

theorem Token.Formed.tight {t : Token} (h : t.Formed) : t.text.Tight := by
  have ht : ∀ u ∈ [t], u.Formed := by
    intro u hu
    rwa [List.mem_singleton.1 hu]
  simpa using Text.tight_textOf ht

theorem Token.Formed.tokenize {t : Token} (h : t.Formed) : tokenize t.text = [t] := by
  simpa using tokenize_text_append h []

end LSystem
