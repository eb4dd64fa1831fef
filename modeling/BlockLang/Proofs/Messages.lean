import BlockLang.Diagnostic

/-! # Telling problems by their messages

Four problems have a message of fixed wording. Such a message is that of no other problem
(`message_eq_iff_of_fixed`): no other wording starts with the same words (`Problem.opening`).

Three wordings tell something of a variable, and start with the same words. What comes after the
name is not how another of them ends (`variableEndings`), so the message tells which of them it is
and what the name is (`message_eq_undeclared_iff`). -/

namespace BlockLang.Problem

/-- The words with which the message of a problem starts, up to the first name or text in it. -/
def opening : Problem → String
  | invalidCharacter _ => "Invalid character: '"
  | unclosedComment => "Unclosed multi-line comment"
  | unclosedString => "Unclosed string literal"
  | unclosedCharacter => "Unclosed character literal"
  | fractionTooLong _ _ => "Decimal exceeds "
  | invalidExponent _ => "Invalid exponent: "
  | expectedName _ => "Expected identifier after type keyword "
  | invalidName _ => "Invalid identifier '"
  | redeclared _ | undeclared _ _ => "Variable '"
  | missingAssign .declaration _ => "Expected '=' in declaration for variable "
  | missingAssign .assignment _ => "Expected '=' in assignment for variable "
  | missingSemicolon .declaration _ => "Missing semicolon after declaration of "
  | missingSemicolon .assignment _ => "Missing semicolon in assignment for variable "
  | unclosedBlock => "Missing closing brace"

/-- The problems whose message is always the same. -/
def fixed : List Problem := [unclosedComment, unclosedString, unclosedCharacter, unclosedBlock]

theorem toList_prefix_append (a b : String) : a.toList <+: (a ++ b).toList := by
  rw [String.toList_append]
  exact List.prefix_append _ _

theorem opening_prefix_message (p : Problem) : p.opening.toList <+: p.message.toList := by
  cases p with
  | unclosedComment | unclosedString | unclosedCharacter | unclosedBlock => exact List.prefix_refl _
  | invalidExponent text | expectedName text => exact toList_prefix_append _ _
  | invalidCharacter _ | invalidName _ | redeclared _ =>
    exact (toList_prefix_append _ _).trans (toList_prefix_append _ _)
  | fractionTooLong _ _ =>
    exact ((toList_prefix_append _ _).trans (toList_prefix_append _ _)).trans
      (toList_prefix_append _ _)
  | undeclared form _ =>
    cases form <;> exact (toList_prefix_append _ _).trans (toList_prefix_append _ _)
  | missingAssign form _ | missingSemicolon form _ =>
    cases form <;> exact toList_prefix_append _ _

/-- All openings. -/
def openings : List String :=
  ["Invalid character: '", "Unclosed multi-line comment", "Unclosed string literal",
   "Unclosed character literal", "Decimal exceeds ", "Invalid exponent: ",
   "Expected identifier after type keyword ", "Invalid identifier '", "Variable '",
   "Expected '=' in declaration for variable ", "Expected '=' in assignment for variable ",
   "Missing semicolon after declaration of ", "Missing semicolon in assignment for variable ",
   "Missing closing brace"]

theorem opening_mem_openings (p : Problem) : p.opening ∈ openings := by
  cases p with
  | missingAssign form _ | missingSemicolon form _ => cases form <;> simp [opening, openings]
  | _ => simp [opening, openings]

theorem eq_of_prefix_of_mem_openings : ∀ o ∈ openings, ∀ o' ∈ openings,
    o.toList <+: o'.toList → o = o' := by decide

/-- Words that agree with one opening only, as far as they go, tell the opening of a message that
starts with them. -/
theorem opening_eq_of_starts {p : Problem} {words o : String}
    (ho : ∀ o' ∈ openings, words.toList <+: o'.toList ∨ o'.toList <+: words.toList → o' = o)
    (h : words.toList <+: p.message.toList) : p.opening = o :=
  ho _ p.opening_mem_openings (List.prefix_or_prefix_of_prefix h p.opening_prefix_message)

/-- **The opening of a message is the one that it starts with.** -/
theorem opening_prefix_iff {p : Problem} {o : String} (ho : o ∈ openings) :
    o.toList <+: p.message.toList ↔ p.opening = o := by
  refine ⟨opening_eq_of_starts fun o' ho' hc => ?_, fun h => h ▸ p.opening_prefix_message⟩
  rcases hc with hc | hc
  · exact (eq_of_prefix_of_mem_openings o ho o' ho' hc).symm
  · exact eq_of_prefix_of_mem_openings o' ho' o ho hc

theorem eq_of_opening_eq {p q : Problem} (hp : p ∈ fixed) (h : q.opening = p.opening) : q = p := by
  simp only [fixed, List.mem_cons, List.not_mem_nil, or_false] at hp
  revert h
  cases q with
  | missingAssign form _ | missingSemicolon form _ =>
    cases form <;> rcases hp with rfl | rfl | rfl | rfl <;> simp [opening]
  | _ => rcases hp with rfl | rfl | rfl | rfl <;> simp [opening]

theorem message_eq_opening {p : Problem} (hp : p ∈ fixed) : p.message = p.opening := by
  simp only [fixed, List.mem_cons, List.not_mem_nil, or_false] at hp
  rcases hp with rfl | rfl | rfl | rfl <;> rfl

/-- **A message of fixed wording tells its problem.** -/
theorem message_eq_iff_of_fixed {p q : Problem} (hp : p ∈ fixed) :
    q.message = p.message ↔ q = p := by
  refine ⟨fun h => ?_, fun h => h ▸ rfl⟩
  have hprefix := q.opening_prefix_message
  rw [h, message_eq_opening hp] at hprefix
  exact eq_of_opening_eq hp (eq_of_prefix_of_mem_openings _ q.opening_mem_openings _
    p.opening_mem_openings hprefix)

/-! ### Variables -/

/-- What comes after the name in the message on an undeclared use. -/
def undeclaredEnding : ValueForm → String
  | .declaration => "' used in initialization is not declared."
  | .assignment => "' is not declared."

/-- What comes after the name in a message on a variable. -/
def variableEndings : List String :=
  ["' already declared in this scope.", undeclaredEnding .declaration, undeclaredEnding .assignment]

theorem message_redeclared (name : String) :
    (redeclared name).message = "Variable '" ++ name ++ "' already declared in this scope." := rfl

theorem message_undeclared (form : ValueForm) (name : String) :
    (undeclared form name).message = "Variable '" ++ name ++ undeclaredEnding form := by
  cases form <;> rfl

theorem undeclaredEnding_mem (form : ValueForm) : undeclaredEnding form ∈ variableEndings := by
  cases form <;> decide

theorem eq_of_suffix_of_mem_variableEndings : ∀ e ∈ variableEndings, ∀ e' ∈ variableEndings,
    e.toList <:+ e'.toList → e = e' := by decide

theorem eq_of_variable_message_eq {name name' e e' : String} (he : e ∈ variableEndings)
    (he' : e' ∈ variableEndings) (h : "Variable '" ++ name ++ e = "Variable '" ++ name' ++ e') :
    name = name' ∧ e = e' := by
  have hlist := congrArg String.toList h
  simp only [String.toList_append, List.append_assoc] at hlist
  have hrest := List.append_cancel_left hlist
  have hends : e = e' := by
    have hsuffix : e.toList <:+ name'.toList ++ e'.toList := hrest ▸ List.suffix_append _ _
    rcases List.suffix_or_suffix_of_suffix hsuffix (List.suffix_append _ _) with hs | hs
    · exact eq_of_suffix_of_mem_variableEndings e he e' he' hs
    · exact (eq_of_suffix_of_mem_variableEndings e' he' e he hs).symm
  rw [hends] at hrest
  exact ⟨String.toList_inj.mp (List.append_cancel_right hrest), hends⟩

/-- **The message on an undeclared use tells the name.** -/
theorem message_eq_undeclared_iff {p : Problem} {form : ValueForm} {name : String} :
    p.message = (undeclared form name).message ↔ p = undeclared form name := by
  refine ⟨fun h => ?_, fun h => h ▸ rfl⟩
  rw [message_undeclared] at h
  have hstart : "Variable '".toList <+: p.message.toList := by
    rw [h]
    exact (toList_prefix_append _ _).trans (toList_prefix_append _ _)
  have hopening : p.opening = "Variable '" := (opening_prefix_iff (by decide)).mp hstart
  cases p with
  | redeclared name' =>
    rw [message_redeclared] at h
    have hends := (eq_of_variable_message_eq (by decide) (undeclaredEnding_mem form) h).2
    cases form <;> exact absurd hends (by decide)
  | undeclared form' name' =>
    rw [message_undeclared] at h
    obtain ⟨rfl, hends⟩ :=
      eq_of_variable_message_eq (undeclaredEnding_mem form') (undeclaredEnding_mem form) h
    cases form <;> cases form' <;> first | rfl | exact absurd hends (by decide)
  | missingAssign form _ | missingSemicolon form _ => cases form <;> simp [opening] at hopening
  | _ => simp [opening] at hopening

end BlockLang.Problem
