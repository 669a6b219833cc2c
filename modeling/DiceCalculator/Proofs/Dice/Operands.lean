import DiceCalculator.Proofs.Dice.Language

/-!
# Operands

Paths, atoms and terms begin and end with something firm, neither a sign nor a
dot. A path and an atom can be cut before a balanced rest at a dot only, a term
at a factor sign too. So none of them ends with another one behind a token that
is firm: matching from the end takes the whole of an operand.
-/

namespace DiceCalculator.Dice

/-- Neither a sign nor a dot. -/
def Firm (token : Token) : Prop :=
  token.kind ≠ .arithOp ∧ token.kind ≠ .factorOp ∧ token.text ≠ "."

theorem Lexical.firm {token : Token} (lexical : Lexical token)
    (kind : token.kind ∈ [.number, .dice, .charSequence]) : Firm token := by
  have other : token.kind ≠ .literal := by
    rintro literal
    simp [literal] at kind
  refine ⟨?_, ?_, lexical.text_ne other (by simp)⟩
  all_goals
    rintro sign
    simp [sign] at kind

theorem Lexical.firm_paren {token : Token} (lexical : Lexical token)
    (paren : token.text ∈ ["(", ")"]) : Firm token := by
  have literal : token.kind = .literal := by
    apply lexical.punctuation
    simp_all
  refine ⟨by simp [literal], by simp [literal], ?_⟩
  rintro dot
  simp [dot] at paren

/-- The word begins and ends with something firm. -/
structure FirmEnds (word : List Token) : Prop where
  first : ∃ token rest, word = token :: rest ∧ Firm token
  last : ∃ earlier token, word = earlier ++ [token] ∧ Firm token

theorem firmEnds_single {token : Token} (firm : Firm token) : FirmEnds [token] :=
  ⟨⟨token, [], rfl, firm⟩, ⟨[], token, rfl, firm⟩⟩

theorem FirmEnds.append {u v : List Token} (first : FirmEnds u) (middle : List Token)
    (second : FirmEnds v) : FirmEnds (u ++ (middle ++ v)) := by
  obtain ⟨⟨token, rest, rfl, firm⟩, -⟩ := first
  obtain ⟨-, ⟨earlier, last, rfl, firmLast⟩⟩ := second
  refine ⟨⟨token, _, rfl, firm⟩, ⟨token :: (rest ++ (middle ++ earlier)), last, ?_, firmLast⟩⟩
  simp

namespace Derives

variable {tree : Tree Action}

/-- A path of names ends with a name. -/
theorem exists_last_path (derivation : Derives .dotOperation tree) :
    ∃ earlier token, tree.tokens = earlier ++ [token] ∧ token.kind = .charSequence := by
  cases derivation with
  | word kind => exact ⟨[], _, rfl, kind⟩
  | dotted owner _ part =>
    cases part with
    | name kind =>
      rw [Tree.tokens_three]
      exact ⟨_ ++ [_], _, (List.append_assoc ..).symm, kind⟩

theorem firmEnds_path (derivation : Derives .dotOperation tree)
    (lexical : ∀ token ∈ tree.tokens, Lexical token) : FirmEnds tree.tokens := by
  generalize same : Nonterminal.dotOperation = X at derivation
  induction derivation with
  | word kind => exact firmEnds_single ((lexical _ (List.mem_singleton_self _)).firm (by simp [kind]))
  | dotted _ _ part first _ =>
    cases part with
    | name kind =>
      rw [Tree.tokens_three, List.forall_mem_append, List.forall_mem_append] at lexical
      rw [Tree.tokens_three]
      obtain ⟨lexicalFirst, -, lexicalPart⟩ := lexical
      have firm := (lexicalPart _ (List.mem_singleton_self _)).firm (by simp [kind])
      exact (first lexicalFirst rfl).append _ (firmEnds_single firm)
  | _ => cases same

theorem firmEnds_atom (derivation : Derives .atom tree)
    (lexical : ∀ token ∈ tree.tokens, Lexical token) : FirmEnds tree.tokens := by
  cases derivation with
  | number kind | die kind =>
    exact firmEnds_single ((lexical _ (List.mem_singleton_self _)).firm (by simp [kind]))
  | reference path =>
    rw [Tree.tokens_one] at lexical ⊢
    exact path.firmEnds_path lexical
  | nested left _ right =>
    rw [Tree.tokens_three, List.forall_mem_append, List.forall_mem_append] at lexical
    rw [Tree.tokens_three]
    obtain ⟨lexicalLeft, -, lexicalRight⟩ := lexical
    have firmLeft := (lexicalLeft _ (List.mem_singleton_self _)).firm_paren (by simp [left])
    have firmRight := (lexicalRight _ (List.mem_singleton_self _)).firm_paren (by simp [right])
    exact (firmEnds_single firmLeft).append _ (firmEnds_single firmRight)

theorem firmEnds_term (derivation : Derives .term tree)
    (lexical : ∀ token ∈ tree.tokens, Lexical token) : FirmEnds tree.tokens := by
  generalize same : Nonterminal.term = X at derivation
  induction derivation with
  | operand atom =>
    rw [Tree.tokens_one] at lexical ⊢
    exact atom.firmEnds_atom lexical
  | scale _ _ atom first _ _ =>
    rw [Tree.tokens_three, List.forall_mem_append, List.forall_mem_append] at lexical
    rw [Tree.tokens_three]
    obtain ⟨lexicalFirst, -, lexicalAtom⟩ := lexical
    exact (first lexicalFirst rfl).append _ (atom.firmEnds_atom lexicalAtom)
  | _ => cases same

/-- A path can be cut at its dots only. -/
theorem linked_path (derivation : Derives .dotOperation tree)
    (lexical : ∀ token ∈ tree.tokens, Lexical token) : Linked (·.text = ".") tree.tokens := by
  generalize same : Nonterminal.dotOperation = X at derivation
  induction derivation with
  | word => exact linked_single
  | dotted _ dot part first _ =>
    rw [Tree.tokens_three, List.forall_mem_append, List.forall_mem_append] at lexical
    rw [Tree.tokens_three]
    obtain ⟨lexicalFirst, -, lexicalPart⟩ := lexical
    have balancedDot := balanced_single dot (by decide) (by decide)
    have balancedPart := part.balanced lexicalPart
    cases part with
    | name =>
      exact (first lexicalFirst rfl).join dot balancedDot linked_single balancedPart.settled
  | _ => cases same

theorem linked_atom (derivation : Derives .atom tree)
    (lexical : ∀ token ∈ tree.tokens, Lexical token) : Linked (·.text = ".") tree.tokens := by
  cases derivation with
  | number | die => exact linked_single
  | reference path =>
    rw [Tree.tokens_one] at lexical ⊢
    exact path.linked_path lexical
  | nested _ inner right =>
    rw [Tree.tokens_three, List.forall_mem_append, List.forall_mem_append] at lexical
    rw [Tree.tokens_three]
    exact (inner.balanced lexical.2.1).linked_enclose right

/-- A term can be cut at its factor signs too. -/
theorem linked_term (derivation : Derives .term tree)
    (lexical : ∀ token ∈ tree.tokens, Lexical token) :
    Linked (fun token => token.text = "." ∨ token.kind = .factorOp) tree.tokens := by
  generalize same : Nonterminal.term = X at derivation
  induction derivation with
  | operand atom =>
    rw [Tree.tokens_one] at lexical ⊢
    exact (atom.linked_atom lexical).mono fun _ => .inl
  | scale _ sign atom first _ _ =>
    rw [Tree.tokens_three, List.forall_mem_append, List.forall_mem_append] at lexical
    rw [Tree.tokens_three]
    obtain ⟨lexicalFirst, lexicalSign, lexicalAtom⟩ := lexical
    have balancedSign := sign.balanced lexicalSign
    have balancedAtom := atom.balanced lexicalAtom
    cases sign with
    | multDivOp kind =>
      refine (first lexicalFirst rfl).join (.inr kind) balancedSign ?_ balancedAtom.settled
      exact (atom.linked_atom lexicalAtom).mono fun _ => .inl
  | _ => cases same

end Derives

theorem Linked.glue_of_append {glue : Token → Prop} {earlier word : List Token} {token : Token}
    (linked : Linked glue (earlier ++ token :: word)) (ends : FirmEnds word)
    (balanced : Balanced word) (apart : ∀ token, Firm token → ¬glue token) : glue token := by
  obtain ⟨⟨first, rest, rfl, firm⟩, -⟩ := ends
  rcases linked earlier token first rest rfl balanced.settled with before | after
  · exact before
  · exact absurd after (apart first firm)

namespace Derives

variable {tree longer : Tree Action} {token : Token} {earlier : List Token}

/-- An atom does not end with another one, but behind a dot. -/
theorem dot_of_atom_append (long : Derives .atom longer) (short : Derives .atom tree)
    (lexical : ∀ token ∈ longer.tokens, Lexical token)
    (same : longer.tokens = earlier ++ token :: tree.tokens) : token.text = "." := by
  have linked := long.linked_atom lexical
  rw [same] at lexical linked
  have lexicalShort := (List.forall_mem_cons.1 (List.forall_mem_append.1 lexical).2).2
  apply linked.glue_of_append (short.firmEnds_atom lexicalShort) (short.balanced lexicalShort)
  exact fun _ firm => firm.2.2

/-- A term does not end with another one, but behind a dot or a factor sign. -/
theorem dot_or_factor_of_term_append (long : Derives .term longer) (short : Derives .term tree)
    (lexical : ∀ token ∈ longer.tokens, Lexical token)
    (same : longer.tokens = earlier ++ token :: tree.tokens) :
    token.text = "." ∨ token.kind = .factorOp := by
  have linked := long.linked_term lexical
  rw [same] at lexical linked
  have lexicalShort := (List.forall_mem_cons.1 (List.forall_mem_append.1 lexical).2).2
  apply linked.glue_of_append (short.firmEnds_term lexicalShort) (short.balanced lexicalShort)
  rintro _ ⟨-, factor, dot⟩
  exact not_or_intro dot factor

/-- No word goes on beyond the left parenthesis in front of another one. -/
theorem text_ne_of_append {X Y : Nonterminal} (long : Derives X longer) (short : Derives Y tree)
    (lexical : ∀ token ∈ longer.tokens, Lexical token)
    (same : longer.tokens = earlier ++ token :: tree.tokens) : token.text ≠ "(" := by
  intro opens
  have balanced := long.balanced lexical
  rw [same] at lexical balanced
  have lexicalShort := (List.forall_mem_cons.1 (List.forall_mem_append.1 lexical).2).2
  have settled := (short.balanced lexicalShort).settled
  have nonneg := balanced.nonneg (List.suffix_append earlier (token :: tree.tokens))
  simp [opens, settled] at nonneg

end Derives

end DiceCalculator.Dice
