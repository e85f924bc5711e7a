import GatewaySdk.Decimal

/-!
# The gateway URL

`WebSocketTransport::Impl::parseUrl` of `websocket_transport.cpp`, with the `std::stoi` it calls
on the port.  The transport's `connect` turns a `false` of `parseUrl` into `ConnectionFailed`
with the text `Invalid URL: ` and the URL, and lets an exception of `std::stoi` out
(`Client/InvalidUrl.lean` follows it through the client).

A URL is read as characters: every delimiter it looks for is ASCII, so byte and character
positions split it at the same places.

For either scheme, a host without `:` or `/` and a path that is empty or starts with `/`,
`parseUrl` gives back the host, the path (`/` when empty) and the port: the scheme's default
when none is written, and otherwise every port that fits in an `int`, negative or above 65535
included.  A port outside `int` throws `out_of_range`, and a port that does not start with a
digit, a sign or white space throws `invalid_argument`: an empty port does, and so does the
IPv6 literal host `[::1]`, whose first `:` is taken for the port separator.
-/

namespace GatewaySdk

/-- The exceptions `std::stoi` throws. -/
inductive StoiError
  | invalidArgument
  | outOfRange
  deriving DecidableEq, Repr

/-- `std::stoi(text)` in base 10: `strtol` skips the leading white space of `isspace`, reads an
optional sign and the longest run of digits after it; no digit throws `invalid_argument`, and a
value outside `int` throws `out_of_range`. -/
def stoi (text : List Char) : Except StoiError Int :=
  let unspaced := text.dropWhile Protocol.isSpace
  let negative := unspaced.head? = some '-'
  let unsigned := if negative ∨ unspaced.head? = some '+' then unspaced.tail else unspaced
  let digits := unsigned.takeWhile Char.isDigit
  if digits = [] then .error .invalidArgument
  else
    let magnitude : Int := digits.foldl (fun value c => value * 10 + (c.toNat - '0'.toNat)) 0
    let value := if negative then -magnitude else magnitude
    if value < -2 ^ 31 ∨ 2 ^ 31 ≤ value then .error .outOfRange else .ok value

/-- `std::string::find(pattern)`: the first position at which `pattern` occurs. -/
def findSubstring (pattern : List Char) : List Char → Option Nat
  | [] => if pattern = [] then some 0 else none
  | c :: rest =>
    if pattern.isPrefixOf (c :: rest) then some 0 else (findSubstring pattern rest).map (· + 1)

/-- The members of `WebSocketTransport::Impl` that `parseUrl` sets. -/
structure Endpoint where
  host : String
  port : Int
  path : String
  useTls : Bool
  deriving DecidableEq, Repr

/-- The part of `parseUrl` after `://`: the host runs to the first `:` or `/`, the port from
a `:` before the first `/` up to it, and the path from the first `/`. -/
def parseAuthority (useTls : Bool) (defaultPort : Int) (rest : List Char) :
    Except StoiError (Option Endpoint) :=
  let pathStart := rest.findIdx? (· = '/')
  let portStart := rest.findIdx? (· = ':')
  let hostEnd := pathStart.getD rest.length
  let path := match pathStart with
    | some start => String.mk (rest.drop start)
    | none => "/"
  match portStart with
  | some start =>
    if pathStart.all (start < ·) then
      (fun port => some { host := String.mk (rest.take start), port, path, useTls }) <$>
        stoi ((rest.drop (start + 1)).take (hostEnd - start - 1))
    else .ok (some { host := String.mk (rest.take hostEnd), port := defaultPort, path, useTls })
  | none => .ok (some { host := String.mk (rest.take hostEnd), port := defaultPort, path, useTls })

/-- `parseUrl`: `none` is the `false` it returns, an error the exception of `std::stoi`.  The
scheme before the first `://` sets TLS and the default port. -/
def parseUrl (url : String) : Except StoiError (Option Endpoint) :=
  match findSubstring "://".data url.data with
  | none => .ok none
  | some schemeEnd =>
    let scheme := url.data.take schemeEnd
    let defaults : Option (Bool × Int) :=
      if scheme = "wss".data then some (true, 443)
      else if scheme = "ws".data then some (false, 80)
      else none
    match defaults with
    | none => .ok none
    | some (useTls, defaultPort) => parseAuthority useTls defaultPort (url.data.drop (schemeEnd + 3))


theorem foldl_digitChar (digits : List Nat) (small : ∀ d ∈ digits, d < 10) (acc : Nat) :
    (digits.map Nat.digitChar).foldl (fun (value : Int) c => value * 10 + (c.toNat - '0'.toNat))
        (acc : Int) = (digits.foldl (fun value digit => value * 10 + digit) acc : Nat) := by
  induction digits generalizing acc with
  | nil => rfl
  | cons digit digits ih =>
    have read := (digitChar_digit digit (small digit (List.mem_cons_self _ _))).2
    have step : (acc : Int) * 10 + ((Nat.digitChar digit).toNat - '0'.toNat) =
        ((acc * 10 + digit : Nat) : Int) := by
      rw [read]
      push_cast
      omega
    simp only [List.map_cons, List.foldl_cons, step]
    exact ih (fun d member => small d (List.mem_cons_of_mem _ member)) _

/-- `std::stoi` reads an optionally negative run of decimal digits whole, up to the first
character that is no digit. -/
theorem stoi_decimal (negative : Bool) {digits : List Nat} (nonempty : digits ≠ [])
    (small : ∀ d ∈ digits, d < 10) {rest : List Char} (stops : ∀ c ∈ rest.head?, c.isDigit = false) :
    stoi ((if negative then ['-'] else []) ++ digits.map Nat.digitChar ++ rest) =
      let value : Int := if negative then -(decimalValue digits : Int) else decimalValue digits
      if value < -2 ^ 31 ∨ 2 ^ 31 ≤ value then .error .outOfRange else .ok value := by
  obtain ⟨first, others, rfl⟩ := List.exists_cons_of_ne_nil nonempty
  have firstChar := digitChar_isDigit first (small first (List.mem_cons_self _ _))
  have allDigits : ∀ c ∈ (first :: others).map Nat.digitChar, c.isDigit = true := by
    simp only [List.mem_map]
    rintro c ⟨d, member, rfl⟩
    exact (digitChar_isDigit d (small d member)).1
  have takeDigits : ((first :: others).map Nat.digitChar ++ rest).takeWhile Char.isDigit =
      (first :: others).map Nat.digitChar := by
    rw [List.takeWhile_append_of_pos allDigits]
    cases rest with
    | nil => simp
    | cons c rest => simp [List.takeWhile_cons, stops c rfl]
  have value := foldl_digitChar (first :: others) small 0
  have keepFirst : ∀ chars, (Nat.digitChar first :: chars).dropWhile Protocol.isSpace =
      Nat.digitChar first :: chars := fun _ => List.dropWhile_cons_of_neg (by simp [firstChar.2.1])
  have keepSign : ∀ chars, ('-' :: chars).dropWhile Protocol.isSpace = '-' :: chars :=
    fun _ => List.dropWhile_cons_of_neg (by decide)
  rw [List.map_cons, List.cons_append] at takeDigits
  rw [List.map_cons, Nat.cast_zero] at value
  cases negative <;>
    simp only [stoi, if_true, if_false, Bool.false_eq_true, List.nil_append, List.singleton_append,
      List.map_cons, List.cons_append, keepFirst, keepSign,
      List.head?_cons, Option.some.injEq, firstChar.2.2.1, firstChar.2.2.2, or_self, true_or,
      List.tail_cons, takeDigits, value, reduceCtorEq, decimalValue]


theorem stoi_toString (port : Int) (rest : List Char)
    (stops : ∀ c ∈ rest.head?, c.isDigit = false) :
    stoi ((toString port).data ++ rest) =
      if -2 ^ 31 ≤ port ∧ port < 2 ^ 31 then .ok port else .error .outOfRange := by
  cases port with
  | ofNat n =>
    obtain ⟨digits, text, nonempty, small, spelled⟩ := toString_decimal n
    have read := stoi_decimal false nonempty small stops
    simp only [Bool.false_eq_true, ↓reduceIte, List.nil_append, spelled] at read
    rw [show (toString (Int.ofNat n)).data = (toString n).data from rfl, text, read,
      Int.ofNat_eq_coe]
    split_ifs <;> first | rfl | omega
  | negSucc m =>
    obtain ⟨digits, text, nonempty, small, spelled⟩ := toString_decimal (m + 1)
    have read := stoi_decimal true nonempty small stops
    simp only [↓reduceIte, spelled] at read
    rw [show (toString (Int.negSucc m)).data = ['-'] ++ (toString (m + 1)).data from rfl, text,
      read, Int.negSucc_eq]
    push_cast
    split_ifs <;> first | rfl | omega

/-- `toString` of an `int` holds digits and a sign, and no `/`. -/
theorem toString_no_slash (port : Int) : ∀ c ∈ (toString port).data, c ≠ '/' := by
  have digitNotSlash : ∀ d ∈ (toString port.natAbs).data, d ≠ '/' := by
    obtain ⟨digits, text, -, small, -⟩ := toString_decimal port.natAbs
    rw [text, List.forall_mem_map]
    intro d member same
    have isDigit := (digitChar_isDigit d (small d member)).1
    rw [same] at isDigit
    cases isDigit
  cases port with
  | ofNat n => exact digitNotSlash
  | negSucc m =>
    intro c member
    rcases List.mem_cons.mp member with rfl | digit
    · decide
    · exact digitNotSlash c digit

theorem findSubstring_scheme (scheme rest : List Char) (plain : ':' ∉ scheme) :
    findSubstring [':', '/', '/'] (scheme ++ ':' :: '/' :: '/' :: rest) = some scheme.length := by
  induction scheme with
  | nil => simp [findSubstring, List.isPrefixOf]
  | cons c scheme ih =>
    simp only [List.mem_cons, not_or] at plain
    have notPrefix : [':', '/', '/'].isPrefixOf (c :: (scheme ++ ':' :: '/' :: '/' :: rest)) = false := by
      simp [List.isPrefixOf, plain.1]
    rw [List.cons_append, findSubstring, notPrefix, if_neg Bool.false_ne_true, ih plain.2]
    rfl

theorem parseUrl_scheme (useTls : Bool) (rest : String) :
    parseUrl ((if useTls then "wss" else "ws") ++ "://" ++ rest) =
      parseAuthority useTls (if useTls then 443 else 80) rest.data := by
  have text : ∀ scheme : String, (scheme ++ "://" ++ rest).data =
      scheme.data ++ ':' :: '/' :: '/' :: rest.data := by
    intro scheme
    simp only [String.data_append, List.append_assoc]
    rfl
  cases useTls <;> simp only [parseUrl, text, Bool.false_eq_true, ↓reduceIte] <;>
    rw [findSubstring_scheme _ _ (by decide)] <;> simp

theorem parseAuthority_port (useTls : Bool) (defaultPort : Int) {host portText path : List Char}
    (hostPlain : ∀ c ∈ host, c ≠ ':' ∧ c ≠ '/') (portPlain : ∀ c ∈ portText, c ≠ '/')
    (pathStart : path = [] ∨ path.head? = some '/') :
    parseAuthority useTls defaultPort (host ++ ':' :: (portText ++ path)) =
      (fun port => some { host := String.mk host, port, useTls,
                          path := if path = [] then "/" else String.mk path }) <$>
        stoi portText := by
  have hostNoSlash : host.findIdx? (· = '/') = none := by
    simpa using fun c member => (hostPlain c member).2
  have hostNoColon : host.findIdx? (· = ':') = none := by
    simpa using fun c member => (hostPlain c member).1
  have portNoSlash : portText.findIdx? (· = '/') = none := by simpa using portPlain
  rcases pathStart with rfl | pathHead
  · simp [parseAuthority, hostNoSlash, hostNoColon, portNoSlash]
  · obtain ⟨tail, rfl⟩ : ∃ tail, path = '/' :: tail := by
      cases path with
      | nil => cases pathHead
      | cons c tail => exact ⟨tail, by simpa using pathHead⟩
    have path : List.drop (portText.length + 1 + host.length) (host ++ ':' :: (portText ++ '/' :: tail)) =
        '/' :: tail := by
      rw [show host ++ ':' :: (portText ++ '/' :: tail) = (host ++ ':' :: portText) ++ '/' :: tail by simp]
      exact List.drop_left' (by simp; omega)
    simp [parseAuthority, hostNoSlash, hostNoColon, portNoSlash, path]

theorem parseAuthority_default (useTls : Bool) (defaultPort : Int) {host path : List Char}
    (hostPlain : ∀ c ∈ host, c ≠ ':' ∧ c ≠ '/') (pathStart : path = [] ∨ path.head? = some '/') :
    parseAuthority useTls defaultPort (host ++ path) =
      .ok (some { host := String.mk host, port := defaultPort, useTls,
                  path := if path = [] then "/" else String.mk path }) := by
  have hostNoSlash : host.findIdx? (· = '/') = none := by
    simpa using fun c member => (hostPlain c member).2
  have hostNoColon : host.findIdx? (· = ':') = none := by
    simpa using fun c member => (hostPlain c member).1
  rcases pathStart with rfl | pathHead
  · simp [parseAuthority, hostNoSlash, hostNoColon]
  · obtain ⟨tail, rfl⟩ : ∃ tail, path = '/' :: tail := by
      cases path with
      | nil => cases pathHead
      | cons c tail => exact ⟨tail, by simpa using pathHead⟩
    cases colon : tail.findIdx? (· = ':') with
    | none => simp [parseAuthority, hostNoSlash, hostNoColon, colon, List.drop_left]
    | some start =>
      have later : ¬start + (1 + host.length) < host.length := by omega
      simp [parseAuthority, hostNoSlash, hostNoColon, colon, List.drop_left, later]

theorem stoi_of_head {text : List Char}
    (noNumber : ∀ c ∈ text.head?, c.isDigit = false ∧ Protocol.isSpace c = false ∧ c ≠ '-' ∧ c ≠ '+') :
    stoi text = .error .invalidArgument := by
  cases text with
  | nil => rfl
  | cons c rest =>
    obtain ⟨notDigit, notSpace, notMinus, notPlus⟩ := noNumber c rfl
    simp [stoi, List.dropWhile_cons_of_neg, notSpace, notMinus, notPlus, List.takeWhile_cons, notDigit]

theorem parseAuthority_port_without_digits (useTls : Bool) (defaultPort : Int) {host rest : List Char}
    (hostPlain : ∀ c ∈ host, c ≠ ':' ∧ c ≠ '/')
    (noNumber : ∀ c ∈ rest.head?, c.isDigit = false ∧ Protocol.isSpace c = false ∧ c ≠ '-' ∧ c ≠ '+') :
    parseAuthority useTls defaultPort (host ++ ':' :: rest) = .error .invalidArgument := by
  have hostNoSlash : host.findIdx? (· = '/') = none := by
    simpa using fun c member => (hostPlain c member).2
  have hostNoColon : host.findIdx? (· = ':') = none := by
    simpa using fun c member => (hostPlain c member).1
  have portText : ∀ count, stoi (rest.take count) = .error .invalidArgument := by
    intro count
    apply stoi_of_head
    intro c member
    rw [List.head?_take] at member
    split at member
    · cases member
    · exact noNumber c member
  cases slash : rest.findIdx? (· = '/') <;>
    simp [parseAuthority, hostNoSlash, hostNoColon, slash, portText, stoi_of_head noNumber]

theorem path_data_start {path : String} (pathStart : path = "" ∨ path.data.head? = some '/') :
    path.data = [] ∨ path.data.head? = some '/' := by
  rcases pathStart with rfl | head
  · exact .inl rfl
  · exact .inr head

theorem path_or_root (path : String) :
    (if path.data = [] then "/" else String.mk path.data) = if path = "" then "/" else path := by
  by_cases empty : path = ""
  · simp [empty]
  · have notNil : path.data ≠ [] := fun nil => empty (String.ext nil)
    simp [empty, notNil]

/-- For either scheme, a host without `:` or `/` and a path that is empty or starts with `/`,
`parseUrl` gives back the host, the path (`/` when empty) and every written port that fits in an
`int`, negative or above 65535 included; any other port throws `out_of_range`. -/
theorem parseUrl_explicit_port (useTls : Bool) (host path : String)
    (hostPlain : ∀ c ∈ host.data, c ≠ ':' ∧ c ≠ '/')
    (pathStart : path = "" ∨ path.data.head? = some '/') (port : Int) :
    parseUrl ((if useTls then "wss" else "ws") ++ "://" ++ host ++ ":" ++ toString port ++ path) =
      if -2 ^ 31 ≤ port ∧ port < 2 ^ 31 then
        .ok (some { host, port, useTls, path := if path = "" then "/" else path })
      else .error .outOfRange := by
  have text : (host ++ ":" ++ toString port ++ path).data =
      host.data ++ ':' :: ((toString port).data ++ path.data) := by
    simp only [String.data_append, List.append_assoc]
    rfl
  have read := stoi_toString port [] (by simp)
  rw [List.append_nil] at read
  simp only [String.append_assoc] at text ⊢
  rw [← String.append_assoc, parseUrl_scheme, text, parseAuthority_port useTls _ hostPlain
    (toString_no_slash port) (path_data_start pathStart), read, path_or_root]
  split_ifs <;> rfl

/-- `ws://gateway:-5/ws` is accepted, with port -5. -/
theorem negative_port_accepted :
    parseUrl ((if false then "wss" else "ws") ++ "://" ++ "gateway" ++ ":" ++ toString (-5 : Int) ++
        "/ws") =
      if -2 ^ 31 ≤ (-5 : Int) ∧ (-5 : Int) < 2 ^ 31 then
        .ok (some { host := "gateway", port := -5, useTls := false,
                    path := if "/ws" = "" then "/" else "/ws" })
      else .error .outOfRange :=
  parseUrl_explicit_port false "gateway" "/ws" (by decide) (.inr rfl) (-5)

/-- Without a port, `parseUrl` gives back the host and the path, with the scheme's default
port: the path may hold a `:`. -/
theorem parseUrl_default_port (useTls : Bool) (host path : String)
    (hostPlain : ∀ c ∈ host.data, c ≠ ':' ∧ c ≠ '/')
    (pathStart : path = "" ∨ path.data.head? = some '/') :
    parseUrl ((if useTls then "wss" else "ws") ++ "://" ++ host ++ path) =
      .ok (some { host, port := if useTls then 443 else 80, useTls,
                  path := if path = "" then "/" else path }) := by
  rw [String.append_assoc, parseUrl_scheme, String.data_append,
    parseAuthority_default useTls _ hostPlain (path_data_start pathStart), path_or_root]

/-- `wss://gateway.example.com/ws` connects to port 443 with TLS. -/
theorem example_gateway_url :
    parseUrl ((if true then "wss" else "ws") ++ "://" ++ "gateway.example.com" ++ "/ws") =
      .ok (some { host := "gateway.example.com", port := if true then 443 else 80, useTls := true,
                  path := if "/ws" = "" then "/" else "/ws" }) :=
  parseUrl_default_port true "gateway.example.com" "/ws" (by decide) (.inr rfl)

/-- A port that starts with no digit, sign or white space makes `parseUrl` throw
`invalid_argument`: an empty port, and an IPv6 literal whose first `:` is taken for the port
separator. -/
theorem parseUrl_port_without_digits (useTls : Bool) (host rest : String)
    (hostPlain : ∀ c ∈ host.data, c ≠ ':' ∧ c ≠ '/')
    (noNumber : ∀ c ∈ rest.data.head?,
      c.isDigit = false ∧ Protocol.isSpace c = false ∧ c ≠ '-' ∧ c ≠ '+') :
    parseUrl ((if useTls then "wss" else "ws") ++ "://" ++ host ++ ":" ++ rest) =
      .error .invalidArgument := by
  have text : (host ++ ":" ++ rest).data = host.data ++ ':' :: rest.data := by
    simp only [String.data_append, List.append_assoc]
    rfl
  rw [String.append_assoc, String.append_assoc, ← String.append_assoc host, parseUrl_scheme, text,
    parseAuthority_port_without_digits useTls _ hostPlain noNumber]

/-- `ws://host:/x` throws: its port is empty. -/
example : parseUrl "ws://host:/x" = .error .invalidArgument := rfl

end GatewaySdk
