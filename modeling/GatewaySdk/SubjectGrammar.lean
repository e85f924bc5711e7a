import GatewaySdk.Matching

/-!
# The subject grammar against the validator

`Protocol::isValidSubject` (`protocol.cpp`) checks a subject by scans and the regex
`[a-zA-Z0-9.*>_-]+`: not empty, at most 256 bytes, no leading, trailing or double `.`, and a `>`
only as the whole last token.  The grammar of subjects is narrower: a token is a non-empty run of
`[A-Za-z0-9_-]`, or exactly `*`, or exactly `>` as the last token.

`isValidSubject_tokens` reads the validator token by token: it accepts exactly the subjects of at
most 256 characters whose `.`-separated tokens are non-empty runs of `[a-zA-Z0-9*_-]`, the last
of which may also be `>`.  So, by `inSubjectGrammar_iff`, a subject is in the grammar exactly
when the validator accepts it and no token has a `*` beside other characters.  The controller
example's `status.actuator-*` has one: the validator accepts it, and the two matchers read it
differently.
-/

namespace GatewaySdk

/-- A character of the token class `[A-Za-z0-9_-]` of the subject grammar. -/
def grammarChar (c : Char) : Bool :=
  c.isAlphanum || c == '_' || c == '-'

/-- A token of the subject grammar that may stand anywhere in a subject: a non-empty run of
`[A-Za-z0-9_-]`, or the wildcard `*`. -/
def grammarToken (token : Token) : Bool :=
  token == ['*'] || (!token.isEmpty && token.all grammarChar)

/-- A token that `isValidSubject` lets stand anywhere in a subject: a non-empty run of the
characters of its class other than `.` and `>`. -/
def validatorToken (token : Token) : Bool :=
  !token.isEmpty && token.all fun c => Protocol.isSubjectChar c && c != '.' && c != '>'

/-- A non-empty sequence of tokens, each accepted by `token`, except that the last may also
be the wildcard `>`. -/
def tokensFollow (token : Token → Bool) : List Token → Bool
  | [] => false
  | [last] => token last || last == ['>']
  | first :: second :: rest => token first && tokensFollow token (second :: rest)

/-- The subject grammar: at most 256 characters, forming `.`-separated tokens of the grammar. -/
def inSubjectGrammar (subject : String) : Bool :=
  decide (subject.length ≤ 256) && tokensFollow grammarToken (dotTokens subject)

namespace Protocol

/-- Joining two or more tokens puts a `'.'` after the first. -/
theorem intercalate_dot_cons_cons (t u : List Char) (rest : List (List Char)) :
    ['.'].intercalate (t :: u :: rest) = t ++ '.' :: ['.'].intercalate (u :: rest) := by
  simp [List.intercalate]

theorem hasDoubleDot_cons_of_ne {a : Char} (notDot : a ≠ '.') (rest : List Char) :
    hasDoubleDot (a :: rest) = hasDoubleDot rest := by
  cases rest <;> simp [hasDoubleDot, notDot]

/-- A token without `'.'` adds no `..` in front of the rest. -/
theorem hasDoubleDot_append {t : List Char} (dotFree : '.' ∉ t) (rest : List Char) :
    hasDoubleDot (t ++ rest) = hasDoubleDot rest := by
  induction t with
  | nil => rfl
  | cons a t ih =>
    have notDot : a ≠ '.' := fun same => dotFree (same ▸ List.mem_cons_self _ _)
    rw [List.cons_append, hasDoubleDot_cons_of_ne notDot]
    exact ih fun member => dotFree (List.mem_cons_of_mem _ member)

/-- A `'.'` in front of the rest makes a `..` exactly when the rest starts with one. -/
theorem hasDoubleDot_dot_cons (rest : List Char) :
    hasDoubleDot ('.' :: rest) = (rest.head? == some '.' || hasDoubleDot rest) := by
  cases rest with
  | nil => rfl
  | cons b rest =>
    by_cases dot : b = '.'
    · subst dot; rfl
    · simp [hasDoubleDot, dot]

/-- The characters of the validator's class are ASCII: one UTF-8 byte each. -/
theorem utf8Size_of_isSubjectChar {c : Char} (subjectChar : isSubjectChar c = true) :
    c.utf8Size = 1 := by
  simp only [isSubjectChar, Char.isAlphanum, Char.isAlpha, Char.isUpper, Char.isLower,
    Char.isDigit, Bool.or_eq_true, Bool.and_eq_true, decide_eq_true_eq, beq_iff_eq, or_assoc]
    at subjectChar
  have small : c.val ≤ 127 := by
    rcases subjectChar with ⟨lower, upper⟩ | ⟨lower, upper⟩ | ⟨lower, upper⟩ | rfl | rfl | rfl |
      rfl | rfl
    all_goals
      first | decide | (simp only [UInt32.le_def, UInt32.toBitVec_ofNat] at *; bv_omega)
  simp [Char.utf8Size, small]

/-- On the validator's characters the byte bound is a bound on characters. -/
theorem utf8ByteSize_of_subjectChars {chars : List Char}
    (subjectChars : chars.all isSubjectChar = true) :
    (String.mk chars).utf8ByteSize = chars.length := by
  show String.utf8ByteSize.go chars = chars.length
  induction chars with
  | nil => rfl
  | cons c chars ih =>
    simp only [List.all_cons, Bool.and_eq_true] at subjectChars
    simp only [String.utf8ByteSize.go, ih subjectChars.2, utf8Size_of_isSubjectChar subjectChars.1,
      List.length_cons]

theorem gtPlacementOk_of_not_mem {chars : List Char} (absent : '>' ∉ chars) :
    gtPlacementOk chars = true := by
  simp [gtPlacementOk, List.indexOf_eq_length.mpr absent]

/-- Within one token, `'>'` can only be the whole token. -/
theorem gtPlacementOk_token {token : List Char} (dotFree : '.' ∉ token) :
    gtPlacementOk token = (!decide ('>' ∈ token) || token == ['>']) := by
  by_cases present : '>' ∈ token
  · cases placed : gtPlacementOk token
    · simp only [present, decide_True, Bool.not_true, Bool.false_or, Bool.false_eq,
        beq_eq_false_iff_ne]
      rintro rfl
      exact absurd placed (by decide)
    · rcases gtPlacementOk_shape placed present with rfl | ⟨front, -, rfl⟩
      · rfl
      · simp at dotFree
  · simp [present, gtPlacementOk_of_not_mem present]

/-- After a token and its `'.'`, `'>'` is placed well when the token has none and the rest
places it well. -/
theorem gtPlacementOk_append_dot {token : List Char} (rest : List Char) :
    gtPlacementOk (token ++ '.' :: rest) = (!decide ('>' ∈ token) && gtPlacementOk rest) := by
  by_cases inToken : '>' ∈ token
  · have early := List.indexOf_lt_length.mpr inToken
    have index : (token ++ '.' :: rest).indexOf '>' = token.indexOf '>' :=
      List.indexOf_append_of_mem inToken
    simp only [gtPlacementOk, index, List.length_append, List.length_cons, inToken]
    rw [if_pos (by omega)]
    simp only [decide_True, Bool.not_true, Bool.false_and, Bool.and_eq_false_imp, beq_iff_eq]
    omega
  · have index : (token ++ '.' :: rest).indexOf '>' = token.length + (rest.indexOf '>' + 1) := by
      rw [List.indexOf_append_of_not_mem inToken, List.indexOf_cons_ne _ (by decide)]
    by_cases inRest : '>' ∈ rest
    · have early := List.indexOf_lt_length.mpr inRest
      simp only [gtPlacementOk, index, List.length_append, List.length_cons, inToken]
      rw [if_pos (by omega), if_pos early, List.getElem?_append_right (by omega)]
      cases found : rest.indexOf '>' with
      | zero => simp; omega
      | succ i =>
        have atEnd : (token.length + (i + 1 + 1) == token.length + rest.length) =
            (i + 1 == rest.length - 1) := by
          rw [Bool.eq_iff_iff, beq_iff_eq, beq_iff_eq]
          omega
        have past : (token.length + (i + 1 + 1) == 0) = false := by
          rw [beq_eq_false_iff_ne]
          omega
        simp [show token.length + (i + 1 + 1) - 1 - token.length = i + 1 by omega, atEnd, past]
    · rw [gtPlacementOk_of_not_mem inRest, gtPlacementOk_of_not_mem (by simp [inToken, inRest])]
      simp [inToken]

/-- Over a token without `'.'`, the validator's token is the characters of its class, and no
`'>'`. -/
theorem validatorToken_eq {token : Token} (dotFree : '.' ∉ token) :
    validatorToken token =
      (!token.isEmpty && token.all isSubjectChar && !decide ('>' ∈ token)) := by
  rw [Bool.eq_iff_iff]
  simp only [validatorToken, Bool.and_eq_true, Bool.not_eq_true', List.all_eq_true,
    bne_iff_ne, ne_eq, decide_eq_false_iff_not]
  constructor
  · rintro ⟨nonempty, chars⟩
    exact ⟨⟨nonempty, fun c member => (chars c member).1.1⟩,
      fun member => (chars '>' member).2 rfl⟩
  · rintro ⟨⟨nonempty, chars⟩, noGt⟩
    exact ⟨nonempty, fun c member => ⟨⟨chars c member, fun dot => dotFree (dot ▸ member)⟩,
      fun gt => noGt (gt ▸ member)⟩⟩

/-- A token and its `'.'` start with a `'.'` exactly when the token is empty. -/
theorem head?_append_dot {token : Token} (dotFree : '.' ∉ token) (rest : List Char) :
    ((token ++ '.' :: rest).head? == some '.') = token.isEmpty := by
  cases token with
  | nil => rfl
  | cons a token =>
    have notDot : a ≠ '.' := fun same => dotFree (same ▸ List.mem_cons_self _ _)
    simp [notDot]

/-- What follows a token's `'.'` ends the whole with a `'.'` when it is empty or ends so. -/
theorem getLast?_append_dot (token rest : List Char) :
    ((token ++ '.' :: rest).getLast? == some '.') =
      (rest.isEmpty || rest.getLast? == some '.') := by
  cases rest with
  | nil => simp
  | cons b rest => simp [List.getLast?_append, List.getLast?_cons]

/-- The validator's checks past the byte bound, on the joining of tokens without `'.'`, are the
token sequence of `tokensFollow validatorToken`: by induction on the tokens after the first. -/
theorem checks_intercalate {first : Token} {rest : List Token} {chars : List Char}
    (dotFree : ∀ token ∈ first :: rest, '.' ∉ token)
    (joined : ['.'].intercalate (first :: rest) = chars) :
    (!chars.isEmpty && !(chars.head? == some '.' || chars.getLast? == some '.') &&
      !hasDoubleDot chars && chars.all isSubjectChar && gtPlacementOk chars) =
      tokensFollow validatorToken (first :: rest) := by
  subst joined
  induction rest generalizing first with
  | nil =>
    have firstFree := dotFree first (List.mem_singleton_self _)
    have noDoubleDot : hasDoubleDot first = false := by
      simpa using hasDoubleDot_append firstFree []
    have head : (first.head? == some '.') = false :=
      beq_eq_false_iff_ne.mpr fun dot => firstFree (List.mem_of_mem_head? dot)
    have last : (first.getLast? == some '.') = false :=
      beq_eq_false_iff_ne.mpr fun dot => firstFree (List.mem_of_mem_getLast? dot)
    rw [show ['.'].intercalate [first] = first by simp [List.intercalate]]
    simp only [tokensFollow, validatorToken_eq firstFree,
      gtPlacementOk_token firstFree, noDoubleDot, head, last]
    by_cases gt : '>' ∈ first
    · by_cases whole : first = ['>'] <;> simp [gt, whole, isSubjectChar]
    · have notGt : first ≠ ['>'] := by rintro rfl; exact gt (List.mem_singleton_self _)
      simp [gt, notGt]
  | cons second rest ih =>
    have firstFree := dotFree first (List.mem_cons_self _ _)
    have tail := ih fun token member => dotFree token (List.mem_cons_of_mem _ member)
    rw [intercalate_dot_cons_cons, tokensFollow, ← tail, validatorToken_eq firstFree]
    simp only [head?_append_dot firstFree, getLast?_append_dot, hasDoubleDot_append firstFree,
      hasDoubleDot_dot_cons, gtPlacementOk_append_dot, List.all_append, List.all_cons]
    generalize ['.'].intercalate (second :: rest) = joined
    have nonempty : (first ++ '.' :: joined).isEmpty = false := by cases first <;> rfl
    have dotChar : isSubjectChar '.' = true := rfl
    rw [Bool.eq_iff_iff]
    simp only [nonempty, dotChar, Bool.and_eq_true, Bool.not_eq_true', Bool.or_eq_false_iff,
      Bool.not_false, Bool.true_and]
    tauto

/-- What `isValidSubject` accepts, token by token: at most 256 characters, forming
`.`-separated tokens, each a non-empty run of `[a-zA-Z0-9*_-]`, except that the last may be
`>`. -/
theorem isValidSubject_tokens (subject : String) :
    isValidSubject subject =
      (decide (subject.length ≤ 256) && tokensFollow validatorToken (dotTokens subject)) := by
  obtain ⟨chars⟩ := subject
  obtain ⟨first, rest, split⟩ : ∃ first rest, chars.splitOn '.' = first :: rest :=
    List.exists_cons_of_ne_nil (List.splitOnP_ne_nil _ _)
  have dotFree : ∀ token ∈ first :: rest, '.' ∉ token := fun token member dot =>
    (mem_of_mem_splitOn (split ▸ member) dot).2 rfl
  have whole : ['.'].intercalate (first :: rest) = chars :=
    split ▸ List.intercalate_splitOn chars '.'
  rw [dotTokens, show (String.mk chars).data = chars from rfl, split,
    ← checks_intercalate dotFree whole, isValidSubject]
  by_cases subjectChars : chars.all isSubjectChar = true
  · rw [utf8ByteSize_of_subjectChars subjectChars]
    simp only [Bool.if_false_left, subjectChars, Bool.decide_eq_true, Bool.not_true,
      Bool.not_false, Bool.true_and, Bool.and_true, Bool.and_assoc]
    have short : (!decide (256 < chars.length)) = decide ((String.mk chars).length ≤ 256) := by
      simp only [String.length, ← decide_not, Nat.not_lt]
    rw [short]
    exact Bool.and_left_comm _ _ _
  · simp [subjectChars]

end Protocol

/-- The grammar's characters are the validator's other than `.`, `>` and `*`. -/
theorem grammarChar_eq (c : Char) :
    grammarChar c = (Protocol.isSubjectChar c && c != '.' && c != '>' && c != '*') := by
  by_cases dot : c = '.'
  · subst dot; decide
  by_cases gt : c = '>'
  · subst gt; decide
  by_cases star : c = '*'
  · subst star; decide
  have notDot : (c == '.') = false := beq_eq_false_iff_ne.mpr dot
  have notGt : (c == '>') = false := beq_eq_false_iff_ne.mpr gt
  have notStar : (c == '*') = false := beq_eq_false_iff_ne.mpr star
  simp [grammarChar, Protocol.isSubjectChar, notDot, notGt, notStar, bne]

/-- A grammar token is a validator token with no `*` beside other characters. -/
theorem grammarToken_iff (token : Token) :
    grammarToken token = true ↔
      validatorToken token = true ∧ ('*' ∈ token → token = ['*']) := by
  by_cases star : token = ['*']
  · subst star; decide
  have notStar : (token == ['*']) = false := beq_eq_false_iff_ne.mpr star
  simp only [grammarToken, validatorToken, grammarChar_eq, notStar, Bool.false_or,
    Bool.and_eq_true, List.all_eq_true, star, imp_false]
  constructor
  · rintro ⟨nonempty, chars⟩
    exact ⟨⟨nonempty, fun c member => (chars c member).1⟩,
      fun member => by simpa using (chars '*' member).2⟩
  · rintro ⟨⟨nonempty, chars⟩, noStar⟩
    exact ⟨nonempty, fun c member =>
      ⟨chars c member, bne_iff_ne.mpr fun same => noStar (same ▸ member)⟩⟩

/-- The same, for sequences of tokens. -/
theorem tokensFollow_grammarToken (tokens : List Token) :
    tokensFollow grammarToken tokens = true ↔
      tokensFollow validatorToken tokens = true ∧
        ∀ token ∈ tokens, '*' ∈ token → token = ['*'] := by
  induction tokens using tokensFollow.induct grammarToken with
  | case1 => simp [tokensFollow]
  | case2 last =>
    by_cases gt : last = ['>']
    · subst gt; decide
    · simp [tokensFollow, gt, grammarToken_iff]
  | case3 first second rest ih =>
    simp only [tokensFollow, Bool.and_eq_true, grammarToken_iff, ih, List.forall_mem_cons]
    tauto

/-- The grammar is the validator's language without the tokens that have a `*` beside other
characters. -/
theorem inSubjectGrammar_iff (subject : String) :
    inSubjectGrammar subject = true ↔
      Protocol.isValidSubject subject = true ∧
        ∀ token ∈ dotTokens subject, '*' ∈ token → token = ['*'] := by
  simp only [inSubjectGrammar, Protocol.isValidSubject_tokens, Bool.and_eq_true,
    tokensFollow_grammarToken, and_assoc]

/-- The language of `isValidSubject`: at most 256 characters forming `.`-separated tokens, each
a non-empty run of `[a-zA-Z0-9*_-]`, except that the last may be `>`.  It holds the grammar, and
beyond it the subjects with a `*` beside other characters in a token. -/
theorem validator_admits_star_in_tokens (subject : String) :
    (Protocol.isValidSubject subject = true ↔
      subject.length ≤ 256 ∧ tokensFollow validatorToken (dotTokens subject) = true) ∧
    (inSubjectGrammar subject = true ↔
      Protocol.isValidSubject subject = true ∧
        ∀ token ∈ dotTokens subject, '*' ∈ token → token = ['*']) :=
  ⟨by simp [Protocol.isValidSubject_tokens], inSubjectGrammar_iff subject⟩

/-- The controller example's subscriptions `status.actuator-*` and `telemetry.sensor-*.>` pass
the validator but are outside the grammar.  The dispatch matcher `matchesSubject` takes the first
to match every subject and the second to match no subject of a sensor, while `matchesPattern`
takes their `*` as a literal character. -/
theorem validator_accepts_star_inside_token :
    Protocol.isValidSubject "status.actuator-*" = true ∧
      inSubjectGrammar "status.actuator-*" = false ∧
      Protocol.isValidSubject "telemetry.sensor-*.>" = true ∧
      inSubjectGrammar "telemetry.sensor-*.>" = false ∧
      GatewayClient.matchesSubject "status.actuator-*" "telemetry.sensor-1.temperature" = true ∧
      GatewayClient.matchesSubject "telemetry.sensor-*.>" "telemetry.sensor-1.temperature" =
        false ∧
      AuthManager.matchesPattern "status.actuator-*" "status.actuator-7" = false := by
  decide

end GatewaySdk
