import BlockLang.Checker
import BlockLang.Proofs.Checking.Items

/-! # What findings mention

A finding on a statement is on the line of one of its tokens and mentions a name in it, or the type
keyword that has no name after it.

* `Problem.mentioned?`: the name or keyword in the message of a problem.
* `Statement.mentionable`: the tokens that the findings on a statement can mention.
* `Finding.Concerns`: a finding is on the line of one of some tokens, and mentions one of the names
  or type keywords among them. Every finding of a check concerns the tokens that are checked
  (`concerns_check`). -/

namespace BlockLang

/-- The name or type keyword that a problem mentions, if it does. -/
def Problem.mentioned? : Problem → Option String
  | expectedName text | invalidName text | redeclared text | undeclared _ text
  | missingAssign _ text | missingSemicolon _ text => some text
  | _ => none

theorem Problem.kind_of_mentioned? {p : Problem} {text : String} (h : p.mentioned? = some text) :
    p.kind = .semantic := by
  cases p with
  | expectedName | invalidName | redeclared | undeclared | missingAssign | missingSemicolon => rfl
  | _ => cases h

/-- The tokens that the findings on a statement can mention. -/
def Statement.mentionable : Statement → List Token
  | declaration _ name body | assignment name body => name :: body.uses
  | loneType type => [type]
  | openBlock _ | closeBlock _ | other _ => []

/-- **A finding that some tokens give rise to.** -/
structure Finding.Concerns (tokens : List Token) (f : Finding) : Prop where
  line : ∃ t ∈ tokens, f.line = t.line
  kind : f.problem.kind = .semantic
  mentioned : ∀ text, f.problem.mentioned? = some text →
    ∃ t ∈ tokens, t.lexeme = text ∧ (t.kind = .identifier ∨ t.isTypeKeyword = true)

theorem Finding.Concerns.mono {tokens tokens' : List Token} {f : Finding} (h : f.Concerns tokens)
    (hsub : tokens ⊆ tokens') : f.Concerns tokens' where
  line := h.line.imp fun _ ht => ⟨hsub ht.1, ht.2⟩
  kind := h.kind
  mentioned text hm := (h.mentioned text hm).imp fun _ ht => ⟨hsub ht.1, ht.2⟩

/-! ### One statement -/

theorem Body.uses_subset_tokens (b : Body) : b.uses ⊆ b.tokens := fun _ hu =>
  List.mem_append_left _ (List.mem_append_right _ (List.mem_filter.mp hu).1)

namespace CheckState

variable {s : CheckState} {st : Statement} {f : Finding}

theorem mem_reportBody {t : SymbolTable} {form : ValueForm} {line : Int} {text : String} {b : Body}
    (h : f ∈ reportBody t form line text b) :
    f = ⟨line, .missingAssign form text⟩ ∨ f = ⟨line, .missingSemicolon form text⟩ ∨
      ∃ u ∈ b.uses, f = ⟨u.line, .undeclared form u.lexeme⟩ := by
  rw [reportBody, List.mem_append, List.mem_append, List.mem_ite_nil_left, List.mem_ite_nil_left,
    List.mem_singleton, List.mem_singleton, List.mem_map] at h
  rcases h with (⟨-, rfl⟩ | ⟨u, hu, rfl⟩) | ⟨-, rfl⟩
  · exact Or.inl rfl
  · exact Or.inr (Or.inr ⟨u, (List.mem_filter.mp hu).1, rfl⟩)
  · exact Or.inr (Or.inl rfl)

theorem mem_report_declaration {type name : Token} {body : Body}
    (h : f ∈ s.report (.declaration type name body)) :
    f = ⟨name.line, .invalidName name.lexeme⟩ ∨ f = ⟨name.line, .redeclared name.lexeme⟩ ∨
      f ∈ reportBody (s.table.declare type.lexeme name.lexeme) .declaration type.line name.lexeme
        body := by
  rw [report, List.mem_append, List.mem_append, List.mem_ite_nil_left, List.mem_ite_nil_right,
    List.mem_singleton, List.mem_singleton] at h
  rcases h with (⟨-, h⟩ | ⟨-, h⟩) | h
  · exact Or.inl h
  · exact Or.inr (Or.inl h)
  · exact Or.inr (Or.inr h)

theorem mem_report_assignment {name : Token} {body : Body}
    (h : f ∈ s.report (.assignment name body)) :
    f = ⟨name.line, .undeclared .assignment name.lexeme⟩ ∨
      f ∈ reportBody s.table .assignment name.line name.lexeme body := by
  rw [report, List.mem_append, List.mem_ite_nil_left, List.mem_singleton] at h
  exact h.imp_left And.right

/-- **A finding on a statement** is on the line of one of its tokens and mentions one of them. -/
theorem mem_report (h : f ∈ s.report st) : (∃ t ∈ st.tokens, f.line = t.line) ∧
    ∃ u ∈ st.mentionable, f.problem.mentioned? = some u.lexeme := by
  cases st with
  | declaration type name body =>
    rcases mem_report_declaration h with rfl | rfl | h
    · exact ⟨⟨name, by simp [Statement.tokens], rfl⟩, name, List.mem_cons_self, rfl⟩
    · exact ⟨⟨name, by simp [Statement.tokens], rfl⟩, name, List.mem_cons_self, rfl⟩
    · rcases mem_reportBody h with rfl | rfl | ⟨u, hu, rfl⟩
      · exact ⟨⟨type, List.mem_cons_self, rfl⟩, name, List.mem_cons_self, rfl⟩
      · exact ⟨⟨type, List.mem_cons_self, rfl⟩, name, List.mem_cons_self, rfl⟩
      · have hmem := body.uses_subset_tokens hu
        exact ⟨⟨u, by simp [Statement.tokens, hmem], rfl⟩, u, List.mem_cons_of_mem name hu, rfl⟩
  | assignment name body =>
    rcases mem_report_assignment h with rfl | h
    · exact ⟨⟨name, List.mem_cons_self, rfl⟩, name, List.mem_cons_self, rfl⟩
    · rcases mem_reportBody h with rfl | rfl | ⟨u, hu, rfl⟩
      · exact ⟨⟨name, List.mem_cons_self, rfl⟩, name, List.mem_cons_self, rfl⟩
      · exact ⟨⟨name, List.mem_cons_self, rfl⟩, name, List.mem_cons_self, rfl⟩
      · have hmem := body.uses_subset_tokens hu
        exact ⟨⟨u, List.mem_cons_of_mem name hmem, rfl⟩, u, List.mem_cons_of_mem name hu, rfl⟩
  | loneType type =>
    rw [List.mem_singleton.mp h]
    exact ⟨⟨type, List.mem_cons_self, rfl⟩, type, List.mem_cons_self, rfl⟩
  | _ => exact absurd h List.not_mem_nil

end CheckState

theorem Statement.IsFormed.of_mem_mentionable {st : Statement} (h : st.IsFormed) {u : Token}
    (hu : u ∈ st.mentionable) :
    u ∈ st.tokens ∧ (u.kind = .identifier ∨ u.isTypeKeyword = true) := by
  have huses : ∀ {b : Body}, u ∈ b.uses → u ∈ b.tokens ∧ u.kind = .identifier := fun {b} hm =>
    ⟨b.uses_subset_tokens hm, of_decide_eq_true (List.mem_filter.mp hm).2⟩
  cases st with
  | declaration type name body =>
    rcases List.mem_cons.mp hu with rfl | hu
    · exact ⟨by simp [tokens], Or.inl h.2⟩
    · obtain ⟨hm, hk⟩ := huses hu
      exact ⟨by simp [tokens, hm], Or.inl hk⟩
  | assignment name body =>
    rcases List.mem_cons.mp hu with rfl | hu
    · exact ⟨List.mem_cons_self, Or.inl h⟩
    · obtain ⟨hm, hk⟩ := huses hu
      exact ⟨List.mem_cons_of_mem name hm, Or.inl hk⟩
  | loneType type =>
    obtain rfl := List.mem_singleton.mp hu
    exact ⟨List.mem_cons_self, Or.inr h⟩
  | _ => exact absurd hu List.not_mem_nil

namespace CheckState

variable {f : Finding}

theorem concerns_report {s : CheckState} {st : Statement} (hst : st.IsFormed)
    (h : f ∈ s.report st) : f.Concerns st.tokens := by
  obtain ⟨hline, u, hu, hm⟩ := mem_report h
  obtain ⟨hmem, hname⟩ := hst.of_mem_mentionable hu
  refine ⟨hline, Problem.kind_of_mentioned? hm, fun text ht => ⟨u, hmem, ?_, hname⟩⟩
  rw [hm] at ht
  exact Option.some.inj ht

/-! ### All statements -/

theorem exists_of_mem_reportAll : ∀ {sts : List Statement} {s : CheckState}, f ∈ s.reportAll sts →
    ∃ st ∈ sts, ∃ s' : CheckState, f ∈ s'.report st
  | st :: sts, s, h => by
    rcases List.mem_append.mp h with h | h
    · exact ⟨st, List.mem_cons_self, s, h⟩
    · obtain ⟨st', hst', hs'⟩ := exists_of_mem_reportAll h
      exact ⟨st', List.mem_cons_of_mem st hst', hs'⟩

theorem openBraces_step_subset (s : CheckState) (st : Statement) :
    (s.step st).openBraces ⊆ st.tokens ++ s.openBraces := by
  cases st with
  | openBlock brace => exact fun _ h => h
  | closeBlock brace =>
    rw [step]
    split
    · exact List.subset_append_right _ _
    · next hb =>
      rw [hb]
      exact fun _ h => List.mem_append_right _ (List.mem_cons_of_mem _ h)
  | _ => exact List.subset_append_right _ _

theorem openBraces_run_subset : ∀ (sts : List Statement) (s : CheckState),
    (s.run sts).openBraces ⊆ sts.flatMap Statement.tokens ++ s.openBraces
  | [], s => fun _ h => h
  | st :: sts, s => by
    intro b hb
    rw [List.flatMap_cons]
    rcases List.mem_append.mp (openBraces_run_subset sts (s.step st) hb) with h | h
    · simp [h]
    · rcases List.mem_append.mp (s.openBraces_step_subset st h) with h | h <;> simp [h]

end CheckState

/-- **Every finding of a check concerns the tokens** that are checked. -/
theorem concerns_check {tokens : List Token} {t : SymbolTable} {f : Finding}
    (h : f ∈ (Checker.check ⟨tokens⟩ t).findings) : f.Concerns tokens := by
  have hbefore : beforeEnd tokens ⊆ tokens := (List.takeWhile_sublist _).subset
  have htokens := flatMap_tokens_statements (beforeEnd tokens)
  rcases List.mem_append.mp h with h | h
  · obtain ⟨st, hst, s, hf⟩ := CheckState.exists_of_mem_reportAll h
    have hformed := (items_statements (beforeEnd tokens)).isFormed st hst
    refine (CheckState.concerns_report hformed hf).mono fun u hu => hbefore ?_
    rw [← htokens]
    exact List.mem_flatMap_of_mem hst hu
  -- a block that stays open is told on the line of its brace, without a name
  · obtain ⟨brace, hb, rfl⟩ := List.mem_map.mp h
    have hmem := CheckState.openBraces_run_subset _ _ hb
    rw [htokens, List.append_nil] at hmem
    exact ⟨⟨brace, hbefore hmem, rfl⟩, rfl, fun text ht => by cases ht⟩

end BlockLang
