import TitanShare.JsonRoundTrip

/-!
# JSON text that breaks off

A text that goes on behind a value is read in the same way up to the end of the value, except that a
number may become longer.  The text of an object therefore never parses when it is cut short: the
whole text would hold a value with more text behind it.
-/

namespace TitanShare
namespace Json

open ByteText PassLoop

/-! ## Tokens of a longer text -/

theorem scanString_extends {place : StringPlace} {text read rest : Bytes}
    (scanned : scanString place text = some (read, rest)) (more : Bytes) :
    scanString place (text ++ more) = some (read, rest ++ more) := by
  induction text generalizing place read with
  | nil => cases scanned
  | cons current later ih =>
      rw [scanString] at scanned
      rw [List.cons_append, scanString]
      split at scanned
      · cases scanned
      · obtain ⟨rfl, rfl⟩ := Prod.mk.inj (Option.some.inj scanned)
        simp only
      · obtain ⟨⟨front, back⟩, inner, same⟩ := Option.map_eq_some_iff.mp scanned
        obtain ⟨rfl, rfl⟩ := Prod.mk.inj same
        simp only [ih inner, Option.map_some]

theorem scanNumber_extends {place : NumberPlace} {text read rest : Bytes}
    (scanned : scanNumber place text = some (read, rest)) (stops : rest ≠ []) (more : Bytes) :
    scanNumber place (text ++ more) = some (read, rest ++ more) := by
  induction text generalizing place read with
  | nil =>
      rw [scanNumber] at scanned
      split at scanned
      · obtain ⟨-, rfl⟩ := Prod.mk.inj (Option.some.inj scanned)
        exact absurd rfl stops
      · cases scanned
  | cons current later ih =>
      rw [scanNumber] at scanned
      rw [List.cons_append, scanNumber]
      split at scanned
      · obtain ⟨⟨front, back⟩, inner, same⟩ := Option.map_eq_some_iff.mp scanned
        obtain ⟨rfl, rfl⟩ := Prod.mk.inj same
        simp only [ih inner, Option.map_some]
      · split at scanned
        · rename_i complete
          obtain ⟨rfl, rfl⟩ := Prod.mk.inj (Option.some.inj scanned)
          simp [complete]
        · cases scanned

/-- A token that a longer text begins with too: not an error, and no number at the very end. -/
def Settled (scanned : Token × Bytes) : Prop :=
  scanned.1 ≠ .parseError ∧ scanned.1 ≠ .endOfInput ∧
    ∀ text, scanned.1 = .valueNumber text → scanned.2 ≠ []

/-- The longer text begins with the same token, if that is settled. -/
def Extends (more : Bytes) (short long : Token × Bytes) : Prop :=
  Settled short → long = (short.1, short.2 ++ more)

theorem Extends.same (more : Bytes) (token : Token) (rest : Bytes) :
    Extends more (token, rest) (token, rest ++ more) :=
  fun _ => rfl

theorem Extends.ite {more : Bytes} {condition : Prop} [Decidable condition]
    {first second firstLong secondLong : Token × Bytes} (left : Extends more first firstLong)
    (right : Extends more second secondLong) :
    Extends more (if condition then first else second)
      (if condition then firstLong else secondLong) := by
  split
  · exact left
  · exact right

theorem scanLiteral_extends (literal : Bytes) (token : Token) (text more : Bytes) :
    Extends more (scanLiteral literal token text) (scanLiteral literal token (text ++ more)) := by
  intro settled
  unfold scanLiteral at settled ⊢
  split at settled
  · rename_i fits
    have front := List.isPrefixOf_iff_prefix.mp fits
    rw [if_pos fits, if_pos (List.isPrefixOf_iff_prefix.mpr (front.trans (List.prefix_append _ _))),
      List.drop_append_of_le_length front.length_le]
  · exact absurd rfl settled.1

theorem stringToken_extends (text more : Bytes) :
    Extends more (stringToken text) (stringToken (text ++ more)) := by
  intro settled
  unfold stringToken at settled ⊢
  cases scanned : scanString .character text with
  | none =>
      rw [scanned] at settled
      exact absurd rfl settled.1
  | some read => rw [@scanString_extends _ _ read.1 _ scanned more]

theorem numberToken_extends (current : UInt8) (text more : Bytes) :
    Extends more (numberToken current text) (numberToken current (text ++ more)) := by
  intro settled
  unfold numberToken at settled ⊢
  cases start : numberStart current with
  | none =>
      rw [start] at settled
      exact absurd rfl settled.1
  | some place =>
      simp only [start, Option.bind_some] at settled ⊢
      cases scanned : scanNumber place text with
      | none =>
          rw [scanned] at settled
          exact absurd rfl settled.1
      | some read =>
          rw [scanned] at settled
          rw [@scanNumber_extends _ _ read.1 _ scanned (settled.2.2 _ rfl) more]

theorem tokenAt_extends (current : UInt8) (text more : Bytes) :
    Extends more (tokenAt current text) (tokenAt current (text ++ more)) :=
  .ite (.same _ _ _) <| .ite (.same _ _ _) <| .ite (.same _ _ _) <| .ite (.same _ _ _) <|
    .ite (.same _ _ _) <| .ite (.same _ _ _) <| .ite (scanLiteral_extends _ _ _ _) <|
    .ite (scanLiteral_extends _ _ _ _) <| .ite (scanLiteral_extends _ _ _ _) <|
    .ite (stringToken_extends _ _) <| .ite (.same _ _ _) (numberToken_extends _ _ _)

theorem scan_extends (text more : Bytes) : Extends more (scan text) (scan (text ++ more)) := by
  intro settled
  unfold scan at settled ⊢
  cases body : text.dropWhile isJsonSpace with
  | nil =>
      rw [body] at settled
      exact absurd rfl settled.2.1
  | cons current rest =>
      rw [body] at settled
      have longer : (text ++ more).dropWhile isJsonSpace = current :: (rest ++ more) := by
        rw [List.dropWhile_append, body]
        rfl
      rw [longer]
      exact tokenAt_extends current rest more settled

/-! ## The loop over a longer text -/

namespace Parsing

def extend (more : Bytes) : Parsing → Parsing
  | .token stack next rest => .token stack next (rest ++ more)
  | .value stack result rest => .value stack result (rest ++ more)

/-- In front of a token that is settled, or behind a value that is not the end of a number at the
end of the text. -/
def Stable : Parsing → Prop
  | .token _ next rest => Settled (next, rest)
  | .value stack _ rest => stack = [] ∨ rest ≠ []

/-- With more text the member begins in the same way. -/
theorem member_extends {stack : List Frame} {members : List (Bytes × Value)} {text : Bytes}
    {next : Parsing} (goes : member stack members (scan text) = .again next) (stable : next.Stable)
    (more : Bytes) : member stack members (scan (text ++ more)) = .again (next.extend more) := by
  unfold member at goes
  split at goes
  · rename_i key rest scanned
    split at goes
    · rename_i later separated
      obtain rfl := Pass.again.inj goes
      have first := scan_extends text more (by rw [scanned]; simp [Settled])
      have second := scan_extends rest more (by rw [separated]; simp [Settled])
      have third := scan_extends later more stable
      rw [scanned] at first
      rw [separated] at second
      simp only [first, member, second, third]
      rfl
    · cases goes
  · cases goes

/-- With more text the pass goes to the same place. -/
theorem goes_extends {before after : Parsing} (goes : Goes pass before after)
    (stable : after.Stable) (more : Bytes) :
    Goes pass (before.extend more) (after.extend more) := by
  unfold Goes at goes ⊢
  cases before with
  | token stack token rest =>
      cases token with
      | beginObject =>
          simp only [pass] at goes
          split at goes
          · rename_i ends
            obtain rfl := Pass.again.inj goes
            have next := scan_extends rest more (by
              rw [Settled, ends]
              simp)
            simp only [extend, pass, next, ends, if_true]
          · rename_i goesOn
            have next := member_extends goes stable more
            have differs : (scan (rest ++ more)).1 ≠ .endObject := by
              intro ends
              rw [member.eq_def] at next
              split at next
              · rename_i key behind scanned
                rw [scanned] at ends
                cases ends
              · cases next
            simp only [extend, pass, if_neg differs]
            exact next
      | beginArray =>
          simp only [pass] at goes
          split at goes
          · rename_i ends
            obtain rfl := Pass.again.inj goes
            have next := scan_extends rest more (by
              rw [Settled, ends]
              simp)
            simp only [extend, pass, next, ends, if_true]
          · rename_i goesOn
            obtain rfl := Pass.again.inj goes
            have next := scan_extends rest more stable
            simp only [extend, pass, next, if_neg goesOn]
      | literalTrue | literalFalse | literalNull | valueString =>
          obtain rfl := Pass.again.inj goes
          rfl
      | valueNumber text =>
          simp only [pass] at goes
          split at goes
          · cases goes
          · rename_i fits
            obtain rfl := Pass.again.inj goes
            simp [extend, pass, fits]
      | endArray | endObject | nameSeparator | valueSeparator | parseError | endOfInput =>
          cases goes
  | value stack result rest =>
      cases stack with
      | nil => cases goes
      | cons frame stack =>
          cases frame with
          | array elements =>
              simp only [pass] at goes
              split at goes
              · rename_i later scanned
                obtain rfl := Pass.again.inj goes
                have first := scan_extends rest more (by rw [scanned]; simp [Settled])
                have second := scan_extends later more stable
                rw [scanned] at first
                simp only [extend, pass, first, second]
              · rename_i later scanned
                obtain rfl := Pass.again.inj goes
                have first := scan_extends rest more (by rw [scanned]; simp [Settled])
                rw [scanned] at first
                simp only [extend, pass, first]
              · cases goes
          | object members key =>
              simp only [pass] at goes
              split at goes
              · rename_i later scanned
                have first := scan_extends rest more (by rw [scanned]; simp [Settled])
                rw [scanned] at first
                simp only [extend, pass, first]
                exact member_extends goes stable more
              · rename_i later scanned
                obtain rfl := Pass.again.inj goes
                have first := scan_extends rest more (by rw [scanned]; simp [Settled])
                rw [scanned] at first
                simp only [extend, pass, first]
              · cases goes

/-- A token is looked at inside of an array or object, but for the very first one. -/
theorem goes_inside {before : Parsing} {stack : List Frame} {next : Token} {rest : Bytes}
    (goes : Goes pass before (.token stack next rest)) : stack ≠ [] := by
  have inside : ∀ {outer members scanned},
      member outer members scanned = .again (.token stack next rest) → stack ≠ [] := by
    intro outer members scanned begins
    unfold member at begins
    split at begins
    · split at begins
      · cases begins
        exact List.cons_ne_nil _ _
      · cases begins
    · cases begins
  unfold Goes at goes
  unfold pass at goes
  split at goes
  · split at goes
    · cases goes
    · exact inside goes
  · split at goes
    · cases goes
    · cases goes
      exact List.cons_ne_nil _ _
  · cases goes
  · cases goes
  · cases goes
  · cases goes
  · split at goes
    · cases goes
    · cases goes
  · cases goes
  · cases goes
  · split at goes
    · cases goes
      exact List.cons_ne_nil _ _
    · cases goes
    · cases goes
  · split at goes
    · exact inside goes
    · cases goes
    · cases goes

theorem not_exits {state : Parsing} (stops : state.pass = .leave none) (result : Value × Bytes) :
    ¬ Exits pass state (some result) := by
  rintro ⟨last, visits, leaves⟩
  rcases visits.cases_head with rfl | ⟨next, goes, _⟩
  · rw [stops] at leaves
    cases leaves
  · rw [Goes, stops] at goes
    cases goes

/-- Inside of an array or object the loop does not end with a value at the end of the text. -/
theorem not_exits_inside {stack : List Frame} (inside : stack ≠ []) (value : Value)
    (result : Value × Bytes) : ¬ Exits pass (.value stack value []) (some result) := by
  obtain ⟨frame, stack, rfl⟩ := List.exists_cons_of_ne_nil inside
  cases frame with
  | array elements => exact not_exits rfl result
  | object members key => exact not_exits rfl result

/-- What a loop that ends with a value visits behind its start is stable. -/
theorem stable_of_exits {before after : Parsing} {result : Value × Bytes}
    (goes : Goes pass before after) (exits : Exits pass after (some result)) : after.Stable := by
  cases after with
  | value stack value rest =>
      by_cases outside : stack = []
      · exact .inl outside
      · refine .inr ?_
        rintro rfl
        exact not_exits_inside outside value result exits
  | token stack next rest =>
      refine ⟨?_, ?_, ?_⟩
      · rintro rfl
        exact not_exits rfl result exits
      · rintro rfl
        exact not_exits rfl result exits
      · rintro text rfl rfl
        by_cases exceeds : exceedsDouble text = true
        · have stops : (Parsing.token stack (.valueNumber text) []).pass = .leave none :=
            if_pos exceeds
          exact not_exits stops result exits
        · have goesOn : Goes pass (.token stack (.valueNumber text) [])
              (.value stack (.number text) []) := if_neg exceeds
          obtain ⟨last, visits, leaves⟩ := exits
          rcases visits.cases_head with rfl | ⟨following, other, later⟩
          · rw [goesOn] at leaves
            cases leaves
          · obtain rfl := Pass.again.inj (goesOn.symm.trans other)
            exact not_exits_inside (goes_inside goes) _ result ⟨last, later, leaves⟩

/-- The loop ends with a value when it has finished it outside of all arrays and objects. -/
theorem eq_of_leaves {last : Parsing} {result : Value × Bytes}
    (leaves : last.pass = .leave (some result)) :
    last = .value [] result.1 result.2 := by
  have begins : ∀ outer members scanned,
      member outer members scanned ≠ .leave (some result) := by
    intro outer members scanned impossible
    unfold member at impossible
    split at impossible
    · split at impossible
      · cases impossible
      · cases impossible
    · cases impossible
  unfold pass at leaves
  split at leaves
  · split at leaves
    · cases leaves
    · exact absurd leaves (begins _ _ _)
  · split at leaves
    · cases leaves
    · cases leaves
  · cases leaves
  · cases leaves
  · cases leaves
  · cases leaves
  · split at leaves
    · cases leaves
    · cases leaves
  · cases leaves
  · cases leaves
    rfl
  · split at leaves
    · cases leaves
    · cases leaves
    · cases leaves
  · split at leaves
    · exact absurd leaves (begins _ _ _)
    · cases leaves
    · cases leaves

/-- With more text behind it, a loop that ends with a value ends with the same value. -/
theorem exits_extends {start : Parsing} {result : Value} {rest : Bytes}
    (exits : Exits pass start (some (result, rest))) (more : Bytes) :
    Exits pass (start.extend more) (some (result, rest ++ more)) := by
  obtain ⟨last, visits, leaves⟩ := exits
  refine ⟨last.extend more, ?_, ?_⟩
  · induction visits using Relation.ReflTransGen.head_induction_on with
    | refl => exact .refl
    | head goes later ih =>
        exact .head (goes_extends goes (stable_of_exits goes ⟨last, later, leaves⟩) more) ih
  · rw [eq_of_leaves leaves]
    rfl

end Parsing

/-- The text of an object does not parse when it breaks off. -/
theorem parse_of_cut {members : List (Bytes × Value)} {text : Bytes}
    (reads : Reads (.object members) text) (braced : text.head? = some (byte '{')) {length : Nat}
    (cut : length < text.length) : parse (text.take length) = none := by
  cases length with
  | zero => rfl
  | succ length =>
      obtain ⟨first, body, rfl⟩ := List.exists_cons_of_length_pos (Nat.zero_lt_of_lt cut)
      obtain rfl := Option.some.inj braced
      have rest : body.drop length ≠ [] := by
        rw [ne_eq, List.drop_eq_nil_iff, not_le]
        exact Nat.lt_of_succ_lt_succ cut
      let start : Parsing := .token [] .beginObject (body.take length)
      have whole : Exits Parsing.pass (.token [] .beginObject body)
          (some (.object members, [])) := by
        have visits := reads.visits [] [] resumes_nil
        rw [List.append_nil] at visits
        exact ⟨_, visits, rfl⟩
      have runs : Exits Parsing.pass start
          (run Parsing.pass (fun _ => none) (start.measure + 1) start) :=
        run_exits _ Parsing.measure Parsing.goes_shortens (Nat.lt_succ_self _)
      change finish (run Parsing.pass (fun _ => none) (start.measure + 1) start) = none
      generalize run Parsing.pass (fun _ => none) (start.measure + 1) start = outcome at runs ⊢
      cases outcome with
      | none => rfl
      | some outcome =>
          -- the whole text would have the rest of itself behind the value
          have longer := Parsing.exits_extends runs (body.drop length)
          simp only [start, Parsing.extend, List.take_append_drop] at longer
          obtain ⟨last, visits, leaves⟩ := longer
          have same := whole.eq_of_leave visits leaves
          simp only [Option.some.injEq, Prod.mk.injEq, List.nil_eq, List.append_eq_nil_iff] at same
          exact absurd same.2.2 rest

end Json
end TitanShare
