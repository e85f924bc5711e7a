import GatewaySdk.Types

/-!
# Subject validation and tokens

`Protocol::isValidSubject` of `protocol.cpp`, read over the characters of the subject, and the
token list that `AuthManager::matchesPattern` builds with `std::getline(iss, token, '.')`.
The reference tokens of a subject are `List.splitOn '.'` of its characters.  A valid subject
has the shape the matchers rely on: it is non-empty, does not end in `'.'`, and a `'>'` can
only be its whole last token.
-/

namespace GatewaySdk

/-- A token of a subject, as its characters. -/
abbrev Token := List Char

/-- The reference `'.'`-token list of a subject. -/
def dotTokens (subject : String) : List Token :=
  subject.data.splitOn '.'

namespace Protocol

/-- A character of the class `[a-zA-Z0-9.*>_-]` of the regular expression in
`isValidSubject`. -/
def isSubjectChar (c : Char) : Bool :=
  c.isAlphanum || c == '.' || c == '*' || c == '>' || c == '_' || c == '-'

/-- `subject.find("..") != std::string::npos`. -/
def hasDoubleDot : List Char → Bool
  | '.' :: '.' :: _ => true
  | _ :: rest => hasDoubleDot rest
  | [] => false

/-- The last check of `isValidSubject`: the first `'>'`, if there is one, is the last
character, and it is the first character or follows a `'.'`. -/
def gtPlacementOk (chars : List Char) : Bool :=
  let gtPos := chars.indexOf '>'
  if gtPos < chars.length then
    gtPos == chars.length - 1 && (gtPos == 0 || chars[gtPos - 1]? == some '.')
  else true

/-- `Protocol::isValidSubject`.  The length bound is on `std::string::length`, the number of
UTF-8 bytes. -/
def isValidSubject (subject : String) : Bool :=
  let chars := subject.data
  if chars.isEmpty then false
  else if 256 < subject.utf8ByteSize then false
  else if chars.head? == some '.' || chars.getLast? == some '.' then false
  else if hasDoubleDot chars then false
  else if !chars.all isSubjectChar then false
  else gtPlacementOk chars

end Protocol

/-- What a valid subject looks like to the matchers. -/
structure SubjectShape (chars : List Char) : Prop where
  ne_nil : chars ≠ []
  getLast_ne_dot : chars.getLast? ≠ some '.'
  gt_placement : '>' ∈ chars → chars = ['>'] ∨ ∃ front, '>' ∉ front ∧ chars = front ++ ['.', '>']

private theorem not_mem_take_indexOf (a : Char) (chars : List Char) :
    a ∉ chars.take (chars.indexOf a) := by
  intro member
  have split := List.take_append_drop (chars.indexOf a) chars
  have early : (chars.take (chars.indexOf a)).indexOf a < (chars.take (chars.indexOf a)).length :=
    List.indexOf_lt_length.mpr member
  have same : chars.indexOf a = (chars.take (chars.indexOf a)).indexOf a := by
    conv_lhs => rw [← split]
    exact List.indexOf_append_of_mem member
  have short := List.length_take_le (chars.indexOf a) chars
  omega

theorem gtPlacementOk_shape {chars : List Char} (placed : Protocol.gtPlacementOk chars = true)
    (present : '>' ∈ chars) :
    chars = ['>'] ∨ ∃ front, '>' ∉ front ∧ chars = front ++ ['.', '>'] := by
  have within := List.indexOf_lt_length.mpr present
  simp only [Protocol.gtPlacementOk, within, if_true, Bool.and_eq_true, beq_iff_eq,
    Bool.or_eq_true] at placed
  obtain ⟨atLast, before⟩ := placed
  have nonempty : chars ≠ [] := List.ne_nil_of_mem present
  have gtAt : chars[chars.indexOf '>'] = '>' := List.getElem_indexOf within
  have whole : chars.dropLast ++ ['>'] = chars := by
    simpa only [List.getLast_eq_getElem, ← atLast, gtAt] using
      List.dropLast_append_getLast nonempty
  have front : '>' ∉ chars.dropLast := by
    rw [List.dropLast_eq_take, ← atLast]
    exact not_mem_take_indexOf '>' chars
  rcases before with first | afterDot
  · left
    have : chars.dropLast = [] := by
      rw [← List.length_eq_zero, List.length_dropLast]
      omega
    rw [← whole, this]
    rfl
  · right
    have dotLast : chars.dropLast.getLast? = some '.' := by
      rw [List.getLast?_eq_getElem?, List.getElem?_dropLast, List.length_dropLast]
      have positive : 0 < chars.indexOf '>' := by
        refine Nat.pos_of_ne_zero fun zero => ?_
        rw [zero, Nat.zero_sub, ← zero, List.getElem?_eq_getElem within, gtAt] at afterDot
        cases afterDot
      rw [if_pos (by omega), ← atLast, afterDot]
    obtain ⟨rest, restEq⟩ := List.getLast?_eq_some_iff.mp dotLast
    refine ⟨rest, fun member => front (restEq ▸ List.mem_append_left _ member), ?_⟩
    rw [← whole, restEq]
    simp

theorem isValidSubject_shape {subject : String} (valid : Protocol.isValidSubject subject = true) :
    SubjectShape subject.data := by
  dsimp only [Protocol.isValidSubject] at valid
  split_ifs at valid with empty long dotEnds
  refine ⟨?_, ?_, gtPlacementOk_shape valid⟩
  · simpa using empty
  · exact fun lastDot => by simp_all

/-- Splitting at a `'.'` splits the two sides independently. -/
theorem splitOn_append_dot (front rest : List Char) :
    (front ++ '.' :: rest).splitOn '.' = front.splitOn '.' ++ rest.splitOn '.' := by
  induction front with
  | nil => simp [List.splitOn]
  | cons c front ih =>
    simp only [List.splitOn, List.cons_append, List.splitOnP_cons] at ih ⊢
    split
    · simp [ih]
    · rw [ih]
      cases h : front.splitOnP (· == '.') with
      | nil => exact absurd h (List.splitOnP_ne_nil _ _)
      | cons first more => rfl

/-- Every character of a token is a non-separator character of the split list. -/
theorem mem_of_mem_splitOn {chars token : List Char} {c : Char}
    (isToken : token ∈ chars.splitOn '.') (member : c ∈ token) : c ∈ chars ∧ c ≠ '.' := by
  induction chars generalizing token with
  | nil => simp_all [List.splitOn]
  | cons d chars ih =>
    simp only [List.splitOn, List.splitOnP_cons] at isToken ih
    split at isToken
    · rcases List.mem_cons.mp isToken with rfl | later
      · cases member
      · exact (ih later member).imp_left (List.mem_cons_of_mem _)
    · cases h : chars.splitOnP (· == '.') with
      | nil => exact absurd h (List.splitOnP_ne_nil _ _)
      | cons first more =>
        rw [h] at isToken ih
        rcases List.mem_cons.mp isToken with rfl | later
        · rcases List.mem_cons.mp member with rfl | inFirst
          · exact ⟨List.mem_cons_self _ _, by simpa using ‹¬(c == '.') = true›⟩
          · exact (ih (List.mem_cons_self _ _) inFirst).imp_left (List.mem_cons_of_mem _)
        · exact (ih (List.mem_cons_of_mem _ later) member).imp_left (List.mem_cons_of_mem _)

/-- Splitting is injective: the characters are the tokens joined by `'.'`. -/
theorem splitOn_injective {first second : List Char}
    (same : first.splitOn '.' = second.splitOn '.') : first = second := by
  rw [← List.intercalate_splitOn first '.', same, List.intercalate_splitOn]

/-- A list starts with `front ++ "."` exactly when its tokens extend those of `front` by at
least one token. -/
theorem dot_prefix_iff_splitOn (front chars : List Char) :
    (∃ rest, chars = front ++ '.' :: rest) ↔
      ∃ tokens, tokens ≠ [] ∧ chars.splitOn '.' = front.splitOn '.' ++ tokens := by
  constructor
  · rintro ⟨rest, rfl⟩
    exact ⟨rest.splitOn '.', List.splitOnP_ne_nil _ _, splitOn_append_dot front rest⟩
  · rintro ⟨tokens, nonempty, split⟩
    have noDot : ∀ token ∈ tokens, '.' ∉ token := fun token member dot =>
      (mem_of_mem_splitOn (split ▸ List.mem_append_right _ member) dot).2 rfl
    refine ⟨[ '.' ].intercalate tokens, splitOn_injective ?_⟩
    rw [split, splitOn_append_dot, List.splitOn_intercalate tokens '.' noDot nonempty]

/-- Only the last token of a token list may be the full wildcard `>`. -/
def GtOnlyLast (tokens : List Token) : Prop :=
  ∀ token ∈ tokens.dropLast, token ≠ ['>']

theorem gtOnlyLast_of_shape {chars : List Char} (shape : SubjectShape chars) :
    GtOnlyLast (chars.splitOn '.') := by
  by_cases present : '>' ∈ chars
  · rcases shape.gt_placement present with rfl | ⟨front, absent, rfl⟩
    · simp [GtOnlyLast, List.splitOn]
    · intro token member gt
      have tokens : (front ++ ['.', '>']).splitOn '.' = front.splitOn '.' ++ [['>']] := by
        simpa [List.splitOn] using splitOn_append_dot front ['>']
      rw [tokens, List.dropLast_concat] at member
      exact absent (mem_of_mem_splitOn member (gt ▸ List.mem_singleton_self '>')).1
  · intro token member gt
    exact present (mem_of_mem_splitOn (List.dropLast_subset _ member)
      (gt ▸ List.mem_singleton_self '>')).1

end GatewaySdk
