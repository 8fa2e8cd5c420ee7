import Roster.Json.Wire
import Roster.Proofs.JsonTokens

/-!
Reading a JSON text undoes writing it. The machine that builds a value comes from the tokens of
a value to that value, whatever stands around it, and it takes the tokens of a value only. So a
text is read as a value just when it is the tokens of this value with white space around them.
-/

namespace Roster.Json.Value

open Text (Bytes)

def Spelled (value : Value) : Prop := ∀ token ∈ value.tokens, token.Spelled

def Legible (value : Value) : Prop := ∀ token ∈ value.tokens, token.Legible

/-! ### Tokens of a value -/

theorem tokens_begin (value : Value) :
    ∃ first others, value.tokens = first :: others ∧ first ≠ .bracketClose := by
  cases value with
  | list items => exact ⟨_, _, by rw [tokens], by simp⟩
  | object fields => exact ⟨_, _, by rw [tokens], by simp⟩
  | null | bool | number | text => exact ⟨_, _, by rw [tokens], by simp⟩

/-! ### The machine -/

theorem itemTokens_begin (item : Value) (items : List Value) :
    ∃ first others, itemTokens (item :: items) = first :: others ∧ first ≠ .bracketClose := by
  obtain ⟨first, others, front, inner⟩ := tokens_begin item
  cases items with
  | nil => exact ⟨first, others ++ [.bracketClose], by simp [itemTokens, front], inner⟩
  | cons second rest =>
      exact ⟨first, others ++ .comma :: itemTokens (second :: rest),
        by simp [itemTokens, front], inner⟩

theorem fieldTokens_begin (field : Bytes × Value) (fields : List (Bytes × Value)) :
    ∃ others, fieldTokens (field :: fields) = .text field.1 :: others := by
  cases fields with
  | nil => exact ⟨.colon :: (field.2.tokens ++ [.braceClose]), by rw [fieldTokens]; rfl⟩
  | cons second rest =>
      exact ⟨.colon :: (field.2.tokens ++ .comma :: fieldTokens (second :: rest)),
        by simp [fieldTokens]⟩

/-- A first item is taken like any other, as no item begins with a closing bracket. -/
theorem build_firstItem (stack : List Frame) (tokens : List Token)
    (item : ∃ first others, tokens = first :: others ∧ first ≠ .bracketClose) :
    tokens.foldlM step? (.firstItem stack) = tokens.foldlM step? (.value (.list [] :: stack)) := by
  obtain ⟨first, others, rfl, inner⟩ := item
  have same : step? (.firstItem stack) first = step? (.value (.list [] :: stack)) first := by
    cases first with
    | bracketClose => exact absurd rfl inner
    | _ => rfl
  rw [List.foldlM_cons, List.foldlM_cons, same]

mutual
/-- The tokens of a value take the machine past it. -/
theorem build_tokens (value : Value) (rest : List Token) (stack : List Frame) :
    (value.tokens ++ rest).foldlM step? (.value stack) =
      rest.foldlM step? (.after value stack) := by
  match value with
  | .null => rfl
  | .bool _ => rfl
  | .number _ => rfl
  | .text _ => rfl
  | .list [] => rfl
  | .object [] => rfl
  | .list (item :: items) =>
      obtain ⟨first, others, front, inner⟩ := itemTokens_begin item items
      have begins : ∃ first others, itemTokens (item :: items) ++ rest = first :: others ∧
          first ≠ .bracketClose := ⟨first, others ++ rest, by rw [front]; rfl, inner⟩
      have built := build_items (item :: items) [] rest stack (List.cons_ne_nil _ _)
      rw [tokens]
      exact (build_firstItem stack _ begins).trans built
  | .object (field :: fields) =>
      obtain ⟨others, front⟩ := fieldTokens_begin field fields
      have built := build_fields (field :: fields) [] rest stack (List.cons_ne_nil _ _)
      rw [front] at built
      rw [tokens, front]
      exact built

theorem build_items (items before : List Value) (rest : List Token) (stack : List Frame)
    (nonempty : items ≠ []) :
    (itemTokens items ++ rest).foldlM step? (.value (.list before :: stack)) =
      rest.foldlM step? (.after (.list (before.reverse ++ items)) stack) := by
  match items with
  | [] => exact absurd rfl nonempty
  | [item] =>
      rw [itemTokens, List.append_assoc, build_tokens item _ (.list before :: stack)]
      simp [step?]
  | item :: second :: others =>
      have later := build_items (second :: others) (item :: before) rest stack
        (List.cons_ne_nil _ _)
      rw [itemTokens, List.append_assoc, build_tokens item _ (.list before :: stack)]
      · simpa [step?] using later
      · simp

theorem build_fields (fields before : List (Bytes × Value)) (rest : List Token)
    (stack : List Frame) (nonempty : fields ≠ []) :
    (fieldTokens fields ++ rest).foldlM step? (.nextName before stack) =
      rest.foldlM step? (.after (.object (before.reverse ++ fields)) stack) := by
  match fields with
  | [] => exact absurd rfl nonempty
  | [(name, value)] =>
      have built := build_tokens value (.braceClose :: rest) (.object before name :: stack)
      rw [fieldTokens]
      simpa [step?] using built
  | (name, value) :: second :: others =>
      have later := build_fields (second :: others) ((name, value) :: before) rest stack
        (List.cons_ne_nil _ _)
      have built := build_tokens value (.comma :: (fieldTokens (second :: others) ++ rest))
        (.object before name :: stack)
      rw [fieldTokens]
      · simp only [List.cons_append, List.append_assoc]
        refine built.trans ?_
        simpa [step?] using later
      · simp
end

theorem ofTokens_tokens (value : Value) : ofTokens? value.tokens = some value := by
  have built := build_tokens value [] []
  rw [List.append_nil] at built
  simp [ofTokens?, start, built, finish?]

/-! ### What the machine has taken -/

def itemsBefore (items : List Value) : List Token :=
  items.flatMap fun item => item.tokens ++ [.comma]

def fieldsBefore (fields : List (Bytes × Value)) : List Token :=
  fields.flatMap fun field => .text field.1 :: .colon :: field.2.tokens ++ [.comma]

def Frame.written : Frame → List Token
  | .list before => .bracketOpen :: itemsBefore before.reverse
  | .object before name => .braceOpen :: fieldsBefore before.reverse ++ [.text name, .colon]

def framesWritten (stack : List Frame) : List Token := stack.reverse.flatMap Frame.written

def State.written : State → List Token
  | .value stack => framesWritten stack
  | .firstItem stack => framesWritten stack ++ [.bracketOpen]
  | .firstName stack => framesWritten stack ++ [.braceOpen]
  | .nextName before stack => framesWritten stack ++ .braceOpen :: fieldsBefore before.reverse
  | .colon before name stack =>
    framesWritten stack ++ .braceOpen :: fieldsBefore before.reverse ++ [.text name]
  | .after complete stack => framesWritten stack ++ complete.tokens

theorem framesWritten_cons (frame : Frame) (stack : List Frame) :
    framesWritten (frame :: stack) = framesWritten stack ++ frame.written := by
  simp [framesWritten]

theorem itemsBefore_concat (items : List Value) (item : Value) :
    itemsBefore (items ++ [item]) = itemsBefore items ++ item.tokens ++ [.comma] := by
  simp [itemsBefore]

theorem fieldsBefore_concat (fields : List (Bytes × Value)) (name : Bytes) (value : Value) :
    fieldsBefore (fields ++ [(name, value)]) =
      fieldsBefore fields ++ .text name :: .colon :: value.tokens ++ [.comma] := by
  simp [fieldsBefore]

theorem itemTokens_concat (items : List Value) (item : Value) :
    itemTokens (items ++ [item]) = itemsBefore items ++ item.tokens ++ [.bracketClose] := by
  induction items with
  | nil => simp [itemTokens, itemsBefore]
  | cons first rest ih =>
      obtain ⟨second, others, split⟩ : ∃ second others, rest ++ [item] = second :: others :=
        List.exists_cons_of_ne_nil (by simp)
      rw [List.cons_append, split, itemTokens, ← split, ih]
      · simp [itemsBefore]
      · simp

theorem fieldTokens_concat (fields : List (Bytes × Value)) (name : Bytes) (value : Value) :
    fieldTokens (fields ++ [(name, value)]) =
      fieldsBefore fields ++ .text name :: .colon :: value.tokens ++ [.braceClose] := by
  induction fields with
  | nil => simp [fieldTokens, fieldsBefore]
  | cons first rest ih =>
      obtain ⟨second, others, split⟩ :
          ∃ second others, rest ++ [(name, value)] = second :: others :=
        List.exists_cons_of_ne_nil (by simp)
      rw [List.cons_append, split, fieldTokens, ← split, ih]
      · simp [fieldsBefore]
      · simp

theorem open_written (stack : List Frame) (token : Token) (next : State)
    (opened : open? stack token = some next) :
    next.written = framesWritten stack ++ [token] := by
  cases token with
  | null | bool | number | text | bracketOpen | braceOpen =>
      cases opened
      simp [State.written, tokens]
  | braceClose | bracketClose | colon | comma => cases opened

/-- A step writes down the token that it takes, and nothing else. -/
theorem step_written (state : State) (token : Token) (next : State)
    (stepped : step? state token = some next) : next.written = state.written ++ [token] := by
  -- The cases are the lines of the machine, in its order.
  fun_cases step? state token with
  | case1 stack => exact open_written stack token next stepped
  | case3 stack =>
      rw [step?] at stepped
      · have written := open_written _ token next stepped
        simpa [State.written, framesWritten_cons, Frame.written, itemsBefore] using written
      · assumption
  | case2 | case4 =>
      cases stepped
      simp [State.written, tokens, itemTokens, fieldTokens]
  | case5 | case6 | case7 =>
      cases stepped
      simp [State.written, framesWritten_cons, Frame.written, fieldsBefore]
  | case8 complete before | case9 complete before =>
      cases stepped
      simp [State.written, tokens, framesWritten_cons, Frame.written, itemsBefore_concat,
        itemTokens_concat]
  | case10 complete before name | case11 complete before name =>
      cases stepped
      simp [State.written, tokens, framesWritten_cons, Frame.written, fieldsBefore_concat,
        fieldTokens_concat]
  -- No other token is taken in any state.
  | case12 => simp_all [step?]

theorem run_written (tokens : List Token) (state last : State)
    (ran : tokens.foldlM step? state = some last) : last.written = state.written ++ tokens := by
  induction tokens generalizing state with
  | nil =>
      cases ran
      rw [List.append_nil]
  | cons token tokens ih =>
      rw [List.foldlM_cons, Option.bind_eq_bind, Option.bind_eq_some_iff] at ran
      obtain ⟨next, stepped, ran⟩ := ran
      rw [ih next ran, step_written state token next stepped, List.append_assoc]
      rfl

theorem ofTokens_iff (given : List Token) (value : Value) :
    ofTokens? given = some value ↔ given = value.tokens := by
  constructor
  · intro built
    simp only [ofTokens?, Option.bind_eq_bind, Option.bind_eq_some_iff] at built
    obtain ⟨last, ran, finished⟩ := built
    have written := run_written given start last ran
    cases last with
    | after complete stack =>
        cases stack with
        | nil =>
            cases finished
            simpa [State.written, start, framesWritten] using written.symm
        | cons frame stack => cases finished
    | _ => cases finished
  · rintro rfl
    exact ofTokens_tokens value

/-! ### Texts of a value -/

theorem step_number (state : State) (lexeme : Bytes) (next : State)
    (stepped : step? state (.number lexeme) = some next) :
    ∃ stack, next = .after (.number lexeme) stack := by
  cases state with
  | value stack =>
      cases stepped
      exact ⟨stack, rfl⟩
  | firstItem stack =>
      cases stepped
      exact ⟨.list [] :: stack, rfl⟩
  | firstName | nextName | colon => cases stepped
  | after complete stack => rcases stack with _ | ⟨_ | _, _⟩ <;> cases stepped

/-- Behind a value there is no room for a number. -/
theorem step_behind (complete : Value) (stack : List Frame) (token : Token)
    (next : State) (stepped : step? (.after complete stack) token = some next) :
    token.isNumber = false := by
  cases token with
  | number lexeme => rcases stack with _ | ⟨_ | _, _⟩ <;> cases stepped
  | _ => rfl

theorem run_apart (tokens : List Token) (state last : State)
    (ran : tokens.foldlM step? state = some last) : Token.Apart tokens := by
  induction tokens generalizing state with
  | nil => exact .nil
  | cons token tokens ih =>
      rw [List.foldlM_cons, Option.bind_eq_bind, Option.bind_eq_some_iff] at ran
      obtain ⟨next, stepped, ran⟩ := ran
      refine List.isChain_cons.mpr ⟨fun following first number => ?_, ih next ran⟩
      cases token with
      | number lexeme =>
          obtain ⟨stack, rfl⟩ := step_number state lexeme next stepped
          obtain ⟨others, rfl⟩ := List.head?_eq_some_iff.mp first
          rw [List.foldlM_cons, Option.bind_eq_bind, Option.bind_eq_some_iff] at ran
          obtain ⟨_, behind, _⟩ := ran
          exact step_behind _ stack following _ behind
      | _ => cases number

theorem tokens_apart (value : Value) : Token.Apart value.tokens := by
  have built := build_tokens value [] []
  rw [List.append_nil] at built
  exact run_apart value.tokens _ _ built

theorem parse_iff (bytes : Bytes) (value : Value) :
    parse? bytes = some value ↔ value.Legible ∧ Token.Spaced value.tokens bytes := by
  simp only [parse?, Option.bind_eq_bind, Option.bind_eq_some_iff, ofTokens_iff]
  constructor
  · rintro ⟨tokens, scanned, rfl⟩
    exact (Token.scan_taken scanned).symm
  · rintro ⟨legible, spaced⟩
    exact ⟨value.tokens, Token.scan_spaced spaced legible (tokens_apart value), rfl⟩

theorem parse_write (value : Value) (spelled : value.Spelled) : parse? value.write = some value :=
  (parse_iff value.write value).mpr
    ⟨fun token member => (spelled token member).legible, Token.spaced_write value.tokens⟩

theorem write_isText (value : Value) (spelled : value.Spelled) :
    Text.Utf8.IsText value.write :=
  Text.Utf8.isText_flatMap _ _ fun token mem => Token.write_isText token (spelled token mem)

end Roster.Json.Value
