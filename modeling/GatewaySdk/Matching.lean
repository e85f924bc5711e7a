import GatewaySdk.Subject

/-!
# Subject matching

The two matchers of the SDK.  `AuthManager::matchesPattern` (`auth.cpp`) splits both strings
with `std::getline` and walks the two token lists; `GatewayClient::Impl::matchesSubject`
(`gateway_client.cpp`) is the simplified matcher of the dispatch path.  Both are compared with
`natsMatch`, the NATS token semantics over the reference `'.'`-token lists.

On valid subjects `matchesPattern` is exactly `natsMatch`.  `matchesSubject` agrees with it
only for patterns without `*`: a pattern with `*` matches every concrete subject unless it ends
in `>`, and then it matches none.
-/

namespace GatewaySdk

/-- NATS subject matching over token lists: literal tokens must be equal, `*` consumes exactly
one subject token, and a final `>` matches one or more remaining tokens. -/
def natsMatch : List Token → List Token → Bool
  | [], [] => true
  | token :: patternRest, subjectToken :: subjectRest =>
    if token = ['>'] ∧ patternRest = [] then true
    else if token = ['*'] then natsMatch patternRest subjectRest
    else token = subjectToken && natsMatch patternRest subjectRest
  | _, _ => false

/-- A token that is neither wildcard. -/
def IsLiteral (token : Token) : Prop :=
  token ≠ ['*'] ∧ token ≠ ['>']

theorem natsMatch_self (tokens : List Token) : natsMatch tokens tokens = true := by
  induction tokens with
  | nil => rfl
  | cons token tokens ih => simp [natsMatch, ih]

/-- Literal tokens match exactly themselves. -/
theorem natsMatch_literal {pattern : List Token} (literal : ∀ token ∈ pattern, IsLiteral token)
    (subject : List Token) : natsMatch pattern subject = true ↔ pattern = subject := by
  induction pattern generalizing subject with
  | nil => cases subject <;> simp [natsMatch]
  | cons token pattern ih =>
    have head := literal token (List.mem_cons_self _ _)
    cases subject with
    | nil => simp [natsMatch]
    | cons subjectToken subject =>
      simp [natsMatch, head.1, head.2, ih (fun t member => literal t (List.mem_cons_of_mem _ member))]

/-- Literal tokens followed by `>` match the subjects that extend them by at least one
token. -/
theorem natsMatch_literal_gt {pattern : List Token} (literal : ∀ token ∈ pattern, IsLiteral token)
    (subject : List Token) :
    natsMatch (pattern ++ [['>']]) subject = true ↔
      ∃ rest, rest ≠ [] ∧ subject = pattern ++ rest := by
  induction pattern generalizing subject with
  | nil =>
    cases subject with
    | nil => simp [natsMatch]
    | cons token subject => simp [natsMatch]
  | cons token pattern ih =>
    have head := literal token (List.mem_cons_self _ _)
    have tail := ih (fun t member => literal t (List.mem_cons_of_mem _ member))
    cases subject with
    | nil => simp [natsMatch]
    | cons subjectToken subject =>
      rw [List.cons_append]
      simp only [natsMatch, head.1, head.2, false_and, if_false, Bool.and_eq_true,
        decide_eq_true_eq, List.cons.injEq]
      rw [tail]
      simp only [List.cons_append, List.cons.injEq]
      constructor
      · rintro ⟨rfl, rest, nonempty, rfl⟩
        exact ⟨rest, nonempty, rfl, rfl⟩
      · rintro ⟨rest, nonempty, rfl, rfl⟩
        exact ⟨rfl, rest, nonempty, rfl⟩

namespace AuthManager

/-- The `std::getline(iss, token, '.')` loop of `splitTokens` in `matchesPattern`.  `current`
holds the characters of the token being read, reversed as in `List.splitOnP`.  A `'.'` ends a
token, even an empty one; at the end of the stream the last token is pushed only when the
last `getline` call extracted a character. -/
def getlineTokens : List Char → List Char → List Token
  | [], current => if current = [] then [] else [current.reverse]
  | c :: rest, current =>
    if c = '.' then current.reverse :: getlineTokens rest []
    else getlineTokens rest (c :: current)

/-- The `splitTokens` lambda of `matchesPattern`. -/
def splitTokens (text : String) : List Token :=
  getlineTokens text.data []

/-- The `while` loop of `matchesPattern`.  Its state `(pi, si)` is represented by the unread
suffixes of the two token lists. -/
def matchTokens : List Token → List Token → Bool
  | token :: patternRest, subjectToken :: subjectRest =>
    if token = ['>'] then true
    else if token = ['*'] then matchTokens patternRest subjectRest
    else if token = subjectToken then matchTokens patternRest subjectRest
    else false
  | patternRest, subjectRest => patternRest.isEmpty && subjectRest.isEmpty

/-- `AuthManager::matchesPattern`: the exact-string fast path, then the token walk. -/
def matchesPattern (pattern subject : String) : Bool :=
  if pattern = subject then true
  else matchTokens (splitTokens pattern) (splitTokens subject)

theorem getlineTokens_eq_splitOnP_go (chars current : List Char)
    (lastNotDot : chars.getLast? ≠ some '.') (notBoth : chars = [] → current ≠ []) :
    getlineTokens chars current = List.splitOnP.go (· == '.') chars current := by
  induction chars generalizing current with
  | nil => simp [getlineTokens, List.splitOnP.go, notBoth rfl]
  | cons c rest ih =>
    by_cases dot : c = '.'
    · subst dot
      have restNonempty : rest ≠ [] := by
        rintro rfl
        exact lastNotDot rfl
      have restLast : rest.getLast? ≠ some '.' := by
        obtain ⟨d, more, rfl⟩ := List.exists_cons_of_ne_nil restNonempty
        rwa [List.getLast?_cons_cons] at lastNotDot
      simp only [getlineTokens, List.splitOnP.go, if_true, beq_self_eq_true]
      rw [ih [] restLast fun empty => absurd empty restNonempty]
    · simp only [getlineTokens, List.splitOnP.go, dot, if_false, beq_iff_eq]
      apply ih (c :: current) _ (fun _ => List.cons_ne_nil _ _)
      cases rest with
      | nil => simp
      | cons d rest => rwa [List.getLast?_cons_cons] at lastNotDot

/-- On a valid subject the `getline` tokens are the reference `'.'`-tokens. -/
theorem splitTokens_eq_dotTokens {text : String} (shape : SubjectShape text.data) :
    splitTokens text = dotTokens text := by
  rw [splitTokens, dotTokens, List.splitOn, List.splitOnP,
    getlineTokens_eq_splitOnP_go _ _ shape.getLast_ne_dot fun empty => absurd empty shape.ne_nil]

/-- The token walk is NATS matching when only the last pattern token may be `>`. -/
theorem matchTokens_eq_natsMatch {pattern : List Token} (gtLast : GtOnlyLast pattern)
    (subject : List Token) : matchTokens pattern subject = natsMatch pattern subject := by
  induction pattern generalizing subject with
  | nil => cases subject <;> rfl
  | cons token pattern ih =>
    have restGtLast : GtOnlyLast pattern := by
      intro t member
      cases pattern with
      | nil => simp at member
      | cons next more =>
        exact gtLast t (by simpa [List.dropLast_cons₂] using Or.inr member)
    cases subject with
    | nil => rfl
    | cons subjectToken subject =>
      by_cases full : token = ['>']
      · have last : pattern = [] := by
          by_contra nonempty
          obtain ⟨next, more, rfl⟩ := List.exists_cons_of_ne_nil nonempty
          exact gtLast token (by simp [List.dropLast_cons₂]) full
        simp [matchTokens, natsMatch, full, last]
      · simp only [matchTokens, natsMatch, full, false_and, if_false, ih restGtLast]
        split <;> simp

/-- `matchesPattern` is NATS matching on the reference tokens of two valid subjects. -/
theorem matchesPattern_eq_natsMatch {pattern subject : String}
    (validPattern : Protocol.isValidSubject pattern = true)
    (validSubject : Protocol.isValidSubject subject = true) :
    matchesPattern pattern subject = natsMatch (dotTokens pattern) (dotTokens subject) := by
  have patternShape := isValidSubject_shape validPattern
  unfold matchesPattern
  split
  · next same => rw [same, natsMatch_self]
  · rw [splitTokens_eq_dotTokens patternShape,
      splitTokens_eq_dotTokens (isValidSubject_shape validSubject)]
    exact matchTokens_eq_natsMatch (gtOnlyLast_of_shape patternShape) _

end AuthManager

namespace GatewayClient

/-- `GatewayClient::Impl::matchesSubject`, the matcher of the dispatch path.  A pattern ending
in `'>'` matches the subjects that start with the pattern minus that character; any other
pattern containing `'*'` matches every subject, leaving the filtering to the gateway. -/
def matchesSubject (pattern subject : String) : Bool :=
  if pattern = subject then true
  else if pattern.data.getLast? = some '>' then
    pattern.data.dropLast.isPrefixOf subject.data
  else if '*' ∈ pattern.data then true
  else false

/-- The tokens of a valid pattern with no `*` are literal, except a final `>`. -/
private theorem literal_tokens {chars : List Char} (noStar : '*' ∉ chars) (noGt : '>' ∉ chars) :
    ∀ token ∈ chars.splitOn '.', IsLiteral token := fun _ member =>
  ⟨fun star => noStar (mem_of_mem_splitOn member (star ▸ List.mem_singleton_self '*')).1,
    fun gt => noGt (mem_of_mem_splitOn member (gt ▸ List.mem_singleton_self '>')).1⟩

/-- A pattern with `*` that ends in `>` matches no subject without `*`. -/
private theorem matchesSubject_star_gt {pattern subject : String} (star : '*' ∈ pattern.data)
    (gt : pattern.data.getLast? = some '>') (concrete : '*' ∉ subject.data) :
    matchesSubject pattern subject = false := by
  have differ : pattern ≠ subject := fun same => concrete (same ▸ star)
  have starFront : '*' ∈ pattern.data.dropLast := by
    have whole := List.dropLast_append_getLast? '>' gt
    rw [← whole] at star
    simpa using star
  simp only [matchesSubject, differ, gt, if_false, if_true, Bool.eq_false_iff, ne_eq,
    List.isPrefixOf_iff_prefix]
  exact fun isPrefix => concrete (isPrefix.subset starFront)

/-- Without `*`, `matchesSubject` is NATS matching on the reference tokens. -/
private theorem matchesSubject_no_star {pattern subject : String}
    (shape : SubjectShape pattern.data) (noStar : '*' ∉ pattern.data) :
    matchesSubject pattern subject = natsMatch (dotTokens pattern) (dotTokens subject) := by
  by_cases same : pattern = subject
  · simp [matchesSubject, same, natsMatch_self]
  by_cases gt : pattern.data.getLast? = some '>'
  · simp only [matchesSubject, same, gt, if_false, if_true]
    have present : '>' ∈ pattern.data := List.mem_of_getLast?_eq_some gt
    rcases shape.gt_placement present with whole | ⟨front, absent, whole⟩
    · obtain ⟨first, more, split⟩ := List.exists_cons_of_ne_nil
        (List.splitOnP_ne_nil (· == '.') subject.data)
      simp [dotTokens, whole, List.splitOn, split, natsMatch]
    · have frontNoStar : '*' ∉ front := fun member => noStar (whole ▸ by simp [member])
      have tokens : dotTokens pattern = front.splitOn '.' ++ [['>']] := by
        simpa [dotTokens, whole, List.splitOn] using splitOn_append_dot front ['>']
      rw [Bool.eq_iff_iff, tokens, natsMatch_literal_gt (literal_tokens frontNoStar absent),
        List.isPrefixOf_iff_prefix, whole, dotTokens, ← dot_prefix_iff_splitOn]
      have dropGt : (front ++ ['.', '>']).dropLast = front ++ ['.'] := by simp
      rw [dropGt]
      constructor
      · rintro ⟨rest, split⟩
        exact ⟨rest, by simp [← split]⟩
      · rintro ⟨rest, split⟩
        exact ⟨rest, by simp [split]⟩
  · have noGt : '>' ∉ pattern.data := fun present => by
      rcases shape.gt_placement present with whole | ⟨front, _, whole⟩ <;>
        rw [whole] at gt <;> simp at gt
    simp only [matchesSubject, same, gt, noStar, if_false]
    symm
    rw [Bool.eq_false_iff, ne_eq, dotTokens, natsMatch_literal (literal_tokens noStar noGt)]
    exact fun equal => same (String.ext (splitOn_injective equal))

/-- `matchesSubject` against the authoritative matcher, for a valid pattern and a valid
subject without `*`: they agree on patterns without `*`; otherwise `matchesSubject` ignores the
subject, matching when the pattern does not end in `>` and failing when it does. -/
theorem matchesSubject_eq_ite {pattern subject : String}
    (validPattern : Protocol.isValidSubject pattern = true)
    (validSubject : Protocol.isValidSubject subject = true) (concrete : '*' ∉ subject.data) :
    matchesSubject pattern subject =
      if '*' ∈ pattern.data then !(pattern.data.getLast? == some '>')
      else AuthManager.matchesPattern pattern subject := by
  split
  · next star =>
    by_cases gt : pattern.data.getLast? = some '>'
    · rw [matchesSubject_star_gt star gt concrete, gt]
      rfl
    · have differ : pattern ≠ subject := fun same => concrete (same ▸ star)
      simp only [matchesSubject, differ, gt, star, if_false, if_true]
      simpa using gt
  · next noStar =>
    rw [matchesSubject_no_star (isValidSubject_shape validPattern) noStar,
      AuthManager.matchesPattern_eq_natsMatch validPattern validSubject]

end GatewayClient

end GatewaySdk
