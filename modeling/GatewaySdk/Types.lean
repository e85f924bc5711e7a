import Mathlib.Algebra.Group.Int
import Mathlib.Data.List.Basic

/-!
# Types of the gateway device SDK

The enumerations of `types.h` and `error.h`, the dynamic `JsonValue` of `message.h`, the
`Message` envelope with its factory functions, and the `DeviceInfo` record that a successful
authentication returns.  `MessageType` keeps its underlying integer, because
`Protocol::deserialize` casts any integer into it; the other enumerations are inductive types.
-/

namespace GatewaySdk

/-- `MessageType` of `types.h`, an `enum class : int`.  A value is its underlying integer;
the eleven enumerators are the envelope types of the gateway protocol. -/
structure MessageType where
  code : Int
  deriving DecidableEq, Repr

namespace MessageType

def publish : MessageType := ⟨0⟩
def subscribe : MessageType := ⟨1⟩
def unsubscribe : MessageType := ⟨2⟩
def message : MessageType := ⟨3⟩
def request : MessageType := ⟨4⟩
def reply : MessageType := ⟨5⟩
def ack : MessageType := ⟨6⟩
def error : MessageType := ⟨7⟩
def auth : MessageType := ⟨8⟩
def ping : MessageType := ⟨9⟩
def pong : MessageType := ⟨10⟩

/-- The value is one of the eleven enumerators `Publish = 0` to `Pong = 10`. -/
def IsEnumerator (type : MessageType) : Prop :=
  0 ≤ type.code ∧ type.code ≤ 10

instance (type : MessageType) : Decidable type.IsEnumerator :=
  inferInstanceAs (Decidable (_ ∧ _))

end MessageType

/-- `ConnectionState` of `types.h`. -/
inductive ConnectionState
  | disconnected
  | connecting
  | authenticating
  | connected
  | reconnecting
  | closing
  | closed
  deriving DecidableEq, Repr

/-- The `ErrorCode` values of `error.h` that the modelled code produces. -/
inductive ErrorCode
  | success
  | connectionFailed
  | connectionTimeout
  | connectionClosed
  | authenticationFailed
  | invalidMessageType
  | invalidSubject
  | malformedJson
  | alreadyConnected
  | notConnected
  | notSubscribed
  | internalError
  deriving DecidableEq, Repr

/-- `Result<T>` of `error.h`: a value, or an error code with its message. -/
abbrev Result (α : Type) := Except (ErrorCode × String) α

/-- An IEEE-754 binary64 value, kept as its bit pattern: the modelled code only stores and
copies doubles. -/
structure Binary64 where
  bits : UInt64
  deriving DecidableEq, Repr

/-- A double is finite when its exponent field is not all ones. -/
def Binary64.IsFinite (value : Binary64) : Prop :=
  (value.bits.toNat / 2 ^ 52) % 2 ^ 11 ≠ 2 ^ 11 - 1

instance (value : Binary64) : Decidable value.IsFinite :=
  inferInstanceAs (Decidable (_ ≠ _))

/-- `JsonValue` of `message.h`.  Each constructor of the C++ class sets only the field of its
own type, so a value is determined by its type and that field.  An `Object` is a
`std::map`, kept as its list of entries in key order. -/
inductive JsonValue
  | null
  | bool (value : Bool)
  | int (value : Int)
  | double (value : Binary64)
  | string (value : String)
  | array (items : List JsonValue)
  | object (entries : List (String × JsonValue))
  deriving Repr

namespace JsonValue

mutual
/-- Structural equality of JSON values, decided by walking both trees. -/
def decEq : (first second : JsonValue) → Decidable (first = second)
  | .null, .null => isTrue rfl
  | .bool a, .bool b =>
    if same : a = b then isTrue (same ▸ rfl) else isFalse fun e => same (bool.inj e)
  | .int a, .int b =>
    if same : a = b then isTrue (same ▸ rfl) else isFalse fun e => same (int.inj e)
  | .double a, .double b =>
    if same : a = b then isTrue (same ▸ rfl) else isFalse fun e => same (double.inj e)
  | .string a, .string b =>
    if same : a = b then isTrue (same ▸ rfl) else isFalse fun e => same (string.inj e)
  | .array a, .array b =>
    match decEqItems a b with
    | isTrue same => isTrue (same ▸ rfl)
    | isFalse differ => isFalse fun e => differ (array.inj e)
  | .object a, .object b =>
    match decEqEntries a b with
    | isTrue same => isTrue (same ▸ rfl)
    | isFalse differ => isFalse fun e => differ (object.inj e)
  | .null, .bool _ | .null, .int _ | .null, .double _ | .null, .string _
  | .null, .array _ | .null, .object _ => isFalse JsonValue.noConfusion
  | .bool _, .null | .bool _, .int _ | .bool _, .double _ | .bool _, .string _
  | .bool _, .array _ | .bool _, .object _ => isFalse JsonValue.noConfusion
  | .int _, .null | .int _, .bool _ | .int _, .double _ | .int _, .string _
  | .int _, .array _ | .int _, .object _ => isFalse JsonValue.noConfusion
  | .double _, .null | .double _, .bool _ | .double _, .int _ | .double _, .string _
  | .double _, .array _ | .double _, .object _ => isFalse JsonValue.noConfusion
  | .string _, .null | .string _, .bool _ | .string _, .int _ | .string _, .double _
  | .string _, .array _ | .string _, .object _ => isFalse JsonValue.noConfusion
  | .array _, .null | .array _, .bool _ | .array _, .int _ | .array _, .double _
  | .array _, .string _ | .array _, .object _ => isFalse JsonValue.noConfusion
  | .object _, .null | .object _, .bool _ | .object _, .int _ | .object _, .double _
  | .object _, .string _ | .object _, .array _ => isFalse JsonValue.noConfusion

/-- Equality of two arrays of JSON values. -/
def decEqItems : (first second : List JsonValue) → Decidable (first = second)
  | [], [] => isTrue rfl
  | [], _ :: _ | _ :: _, [] => isFalse List.noConfusion
  | a :: as, b :: bs =>
    match decEq a b, decEqItems as bs with
    | isTrue head, isTrue tail => isTrue (head ▸ tail ▸ rfl)
    | isFalse head, _ => isFalse fun e => head (List.cons.inj e).1
    | _, isFalse tail => isFalse fun e => tail (List.cons.inj e).2

/-- Equality of two object entry lists. -/
def decEqEntries : (first second : List (String × JsonValue)) → Decidable (first = second)
  | [], [] => isTrue rfl
  | [], _ :: _ | _ :: _, [] => isFalse List.noConfusion
  | (k, a) :: as, (l, b) :: bs =>
    if key : k = l then
      match decEq a b, decEqEntries as bs with
      | isTrue head, isTrue tail => isTrue (key ▸ head ▸ tail ▸ rfl)
      | isFalse head, _ => isFalse fun e => head (Prod.mk.inj (List.cons.inj e).1).2
      | _, isFalse tail => isFalse fun e => tail (List.cons.inj e).2
    else isFalse fun e => key (Prod.mk.inj (List.cons.inj e).1).1
end

instance : DecidableEq JsonValue := decEq

/-- `JsonValue::contains`: the value is an object with an entry for `key`. -/
def contains : JsonValue → String → Bool
  | .object entries, key => (entries.lookup key).isSome
  | _, _ => false

/-- The `const operator[]` of `JsonValue`: the entry for `key`, or the static null value. -/
def get : JsonValue → String → JsonValue
  | .object entries, key => (entries.lookup key).getD .null
  | _, _ => .null

/-- `JsonValue::asBool`: the stored flag, `false` (the field's default) for other types. -/
def asBool : JsonValue → Bool
  | .bool value => value
  | _ => false

/-- `JsonValue::asString`: the stored text, empty for other types. -/
def asString : JsonValue → String
  | .string value => value
  | _ => ""

/-- `JsonValue::asArray`: the stored items, empty for other types. -/
def asArray : JsonValue → List JsonValue
  | .array items => items
  | _ => []

def isNull : JsonValue → Bool
  | .null => true
  | _ => false

@[simp] theorem isNull_iff (value : JsonValue) : value.isNull = true ↔ value = .null := by
  cases value <;> simp [isNull]

def isString : JsonValue → Bool
  | .string _ => true
  | _ => false

def isArray : JsonValue → Bool
  | .array _ => true
  | _ => false

def isObject : JsonValue → Bool
  | .object _ => true
  | _ => false

end JsonValue

/-- `std::less<std::string>`: lexicographic order of the characters, which is the order of
their UTF-8 bytes. -/
def stringLess : List Char → List Char → Bool
  | [], [] => false
  | [], _ :: _ => true
  | _ :: _, [] => false
  | a :: as, b :: bs => if a = b then stringLess as bs else a.toNat < b.toNat

/-- Insertion into a `std::map` ordered by `less`, kept as its entries in key order: a new key
goes to its place, and a key that is already present gets the new value. -/
def mapInsert {K V : Type} [DecidableEq K] (less : K → K → Bool) (key : K) (value : V) :
    List (K × V) → List (K × V)
  | [] => [(key, value)]
  | (k, v) :: rest =>
    if less key k then (key, value) :: (k, v) :: rest
    else if key = k then (key, value) :: rest
    else (k, v) :: mapInsert less key value rest

theorem lookup_cons_eq_ite {K V : Type} [DecidableEq K] (k k' : K) (v : V)
    (rest : List (K × V)) :
    ((k', v) :: rest).lookup k = if k = k' then some v else rest.lookup k := by
  by_cases same : k = k'
  · simp [same]
  · have differ : (k == k') = false := by simpa using same
    simp [List.lookup_cons, differ, same]

/-- Lookup after insertion, whatever the order. -/
@[simp] theorem lookup_mapInsert {K V : Type} [DecidableEq K] (less : K → K → Bool)
    (key k : K) (value : V) (entries : List (K × V)) :
    (mapInsert less key value entries).lookup k =
      if k = key then some value else entries.lookup k := by
  induction entries with
  | nil => simp [mapInsert, lookup_cons_eq_ite]
  | cons entry rest ih =>
    obtain ⟨k', v'⟩ := entry
    unfold mapInsert
    split_ifs <;> simp_all [lookup_cons_eq_ite]

/-- Lookup after `erase` of a key, as `std::map::erase` does it: that key is gone, the others
are untouched. -/
@[simp] theorem lookup_filter_ne {K V : Type} [DecidableEq K] (key k : K) (entries : List (K × V)) :
    (entries.filter fun entry => !decide (entry.1 = key)).lookup k =
      if k = key then none else entries.lookup k := by
  induction entries with
  | nil => simp
  | cons head rest ih =>
    obtain ⟨other, value⟩ := head
    by_cases dropped : other = key
    · subst dropped
      rw [List.filter_cons_of_neg (by simp), ih, lookup_cons_eq_ite]
      split_ifs <;> rfl
    · rw [List.filter_cons_of_pos (by simpa using dropped), lookup_cons_eq_ite, lookup_cons_eq_ite,
        ih]
      split_ifs <;> simp_all

/-- Every entry after an insertion is the inserted one or an old one. -/
theorem mem_mapInsert {K V : Type} [DecidableEq K] (less : K → K → Bool) (key : K) (value : V)
    {entries : List (K × V)} {entry : K × V} (member : entry ∈ mapInsert less key value entries) :
    entry = (key, value) ∨ entry ∈ entries := by
  induction entries with
  | nil => simpa [mapInsert] using member
  | cons head rest ih =>
    unfold mapInsert at member
    split_ifs at member <;> simp only [List.mem_cons] at member
    · rcases member with here | there <;> simp_all
    · rcases member with here | there <;> simp_all
    · rcases member with here | there
      · exact .inr (here ▸ List.mem_cons_self _ _)
      · exact (ih there).imp_right (List.mem_cons_of_mem _)

/-- `value[key] = entry` through the non-const `operator[]`, which first turns a value of
another type into an empty object (the SDK applies it to objects only). -/
def JsonValue.set : JsonValue → String → JsonValue → JsonValue
  | .object entries, key, entry =>
    .object (mapInsert (fun a b => stringLess a.data b.data) key entry entries)
  | _, key, entry => .object [(key, entry)]

/-- `Timestamp` of `types.h`, a `system_clock::time_point`: nanoseconds since the epoch. -/
abbrev Timestamp := Int

/-- `Message` of `message.h`, the envelope carried over the WebSocket, with its defaults. -/
structure Message where
  type : MessageType := .publish
  subject : String := ""
  payload : JsonValue := .null
  correlationId : Option String := none
  timestamp : Option Timestamp := none
  deviceId : Option String := none
  deriving DecidableEq, Repr

namespace Message

/-- `Message::publish`. -/
def publish (subject : String) (payload : JsonValue) : Message :=
  { type := .publish, subject, payload }

/-- `Message::subscribe`. -/
def subscribe (subject : String) : Message :=
  { type := .subscribe, subject }

/-- `Message::unsubscribe`. -/
def unsubscribe (subject : String) : Message :=
  { type := .unsubscribe, subject }

/-- `Message::ping`. -/
def ping : Message :=
  { type := .ping }

end Message

/-- `DeviceInfo` of `types.h`, filled from the `device` object of a successful Auth reply.
The two time points of the C++ record are never set by the SDK and are left out. -/
structure DeviceInfo where
  deviceId : String := ""
  deviceType : String := ""
  isConnected : Bool := false
  allowedPublishTopics : List String := []
  allowedSubscribeTopics : List String := []
  deriving DecidableEq, Repr

end GatewaySdk
