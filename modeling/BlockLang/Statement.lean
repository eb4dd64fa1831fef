import BlockLang.Token

/-! # Statements

The tokens before the end of input are cut from left to right into *statements*. A declaration or
assignment takes everything up to the next semicolon, whatever it is; every other token is a
statement of its own.

* `Body`: what follows the name in a declaration or assignment.
* `Statement`: the forms of statements, holding their tokens; `Statement.tokens` puts them back.
* `statements`: the statements of a token list. Their tokens are the list
  (`flatMap_tokens_statements`). -/

namespace BlockLang

/-- What follows the name in a declaration or assignment: the sign `=`, the value up to the
semicolon, and the semicolon. The sign and the semicolon may be missing. -/
structure Body where
  assign : Option Token
  value : List Token
  semicolon : Option Token
  deriving DecidableEq, Repr

namespace Body

/-- The tokens of a body. -/
def tokens (b : Body) : List Token := b.assign.toList ++ b.value ++ b.semicolon.toList

/-- The names that the value of a body uses, with their lines. -/
def uses (b : Body) : List Token := b.value.filter (·.kind = .identifier)

/-- The sign `=` at the head of some tokens, and the tokens after it. -/
def cutAssign : List Token → Option Token × List Token
  | [] => (none, [])
  | t :: rest => if t.isAssign then (some t, rest) else (none, t :: rest)

/-- The body at the head of some tokens, and the tokens after it. -/
def cut (tokens : List Token) : Body × List Token :=
  let (assign, rest) := cutAssign tokens
  let value := rest.takeWhile (·.kind ≠ .semicolon)
  match rest.dropWhile (·.kind ≠ .semicolon) with
  | [] => (⟨assign, value, none⟩, [])
  | t :: rest => (⟨assign, value, some t⟩, rest)

theorem toList_append_cutAssign (tokens : List Token) :
    (cutAssign tokens).1.toList ++ (cutAssign tokens).2 = tokens := by
  unfold cutAssign
  split
  · rfl
  · split <;> rfl

theorem tokens_cut (tokens : List Token) : (cut tokens).1.tokens ++ (cut tokens).2 = tokens := by
  have ha := toList_append_cutAssign tokens
  have hr := List.takeWhile_append_dropWhile (p := fun t : Token => decide (t.kind ≠ .semicolon))
    (l := (cutAssign tokens).2)
  unfold cut
  dsimp only
  split
  · rename_i hd
    rw [hd, List.append_nil] at hr
    simp only [Body.tokens, Option.toList_none, List.append_nil, hr, ha]
  · rename_i hd
    rw [hd] at hr
    simp only [Body.tokens, Option.toList_some, List.append_assoc, List.singleton_append, hr, ha]

theorem cut_eq (tokens : List Token) : cut tokens =
    (⟨(cutAssign tokens).1, (cutAssign tokens).2.takeWhile (·.kind ≠ .semicolon),
        ((cutAssign tokens).2.dropWhile (·.kind ≠ .semicolon)).head?⟩,
      ((cutAssign tokens).2.dropWhile (·.kind ≠ .semicolon)).tail) := by
  rw [cut]
  dsimp only
  split <;> rename_i h <;> rw [h] <;> rfl

end Body

/-- The forms of statements. -/
inductive Statement
  | openBlock (brace : Token)
  | closeBlock (brace : Token)
  | declaration (type name : Token) (body : Body)
  | loneType (type : Token)
  | assignment (name : Token) (body : Body)
  | other (token : Token)
  deriving DecidableEq, Repr

namespace Statement

/-- The tokens of a statement. -/
def tokens : Statement → List Token
  | openBlock t | closeBlock t | loneType t | other t => [t]
  | declaration type name body => type :: name :: body.tokens
  | assignment name body => name :: body.tokens

/-- The declaration that starts with a type keyword, or the keyword alone if no name follows it; and
the tokens after it. -/
def cutDeclaration (type : Token) : List Token → Statement × List Token
  | [] => (.loneType type, [])
  | name :: rest =>
    if name.kind = .identifier then
      let (body, rest) := Body.cut rest
      (.declaration type name body, rest)
    else (.loneType type, name :: rest)

/-- The statement that starts with `t`, and the tokens after it. -/
def cut (t : Token) (rest : List Token) : Statement × List Token :=
  if t.kind = .openBrace then (.openBlock t, rest)
  else if t.kind = .closeBrace then (.closeBlock t, rest)
  else if t.isTypeKeyword then cutDeclaration t rest
  else if t.kind = .identifier then
    let (body, rest) := Body.cut rest
    (.assignment t body, rest)
  else (.other t, rest)

theorem tokens_cut (t : Token) (rest : List Token) :
    (cut t rest).1.tokens ++ (cut t rest).2 = t :: rest := by
  unfold cut cutDeclaration
  split
  · rfl
  split
  · rfl
  split
  · split
    · rfl
    · split
      · simp [tokens, Body.tokens_cut]
      · rfl
  split
  · simp [tokens, Body.tokens_cut]
  · rfl

theorem tokens_ne_nil (s : Statement) : s.tokens ≠ [] := by cases s <;> simp [tokens]

theorem length_cut_lt (t : Token) (rest : List Token) :
    (cut t rest).2.length < (t :: rest).length := by
  have h := congrArg List.length (tokens_cut t rest)
  have hp := List.length_pos_iff.2 (tokens_ne_nil (cut t rest).1)
  rw [List.length_append] at h
  omega

end Statement

/-- The statements of some tokens. -/
def statements : List Token → List Statement
  | [] => []
  | t :: rest => (Statement.cut t rest).1 :: statements (Statement.cut t rest).2
termination_by tokens => tokens.length
decreasing_by exact Statement.length_cut_lt t rest

/-- **Every token is in one statement, in order.** -/
theorem flatMap_tokens_statements (tokens : List Token) :
    (statements tokens).flatMap Statement.tokens = tokens := by
  fun_induction statements tokens with
  | case1 => rfl
  | case2 t rest ih => rw [List.flatMap_cons, ih, Statement.tokens_cut]

end BlockLang
