import GatewaySdk.Types

/-!
# JSON documents

`nlohmann::json`, the document type that `protocol.cpp` builds envelopes into and reads them
from, with the two conversions `jsonValueToNlohmann` and `nlohmannToJsonValue` between it and
the SDK's `JsonValue`.  The text layer, `dump` and `json::parse`, is a `JsonCodec`: any pair of
functions such that parsing the dump of a document whose numbers are all finite gives the
document back (`dump` writes a NaN or an infinity as `null`).

The objects of both types are `std::map`s.  On a value whose objects have their keys in
strictly increasing order, as every `std::map` does, the two conversions are inverse at every
nesting depth, and a value whose doubles are finite becomes a document whose numbers are.
-/

namespace GatewaySdk

/-- A value of `nlohmann::json`.  Numbers keep nlohmann's three kinds; an object is a
`std::map`, kept as its entries in key order. -/
inductive Json
  | null
  | boolean (value : Bool)
  | numberInteger (value : Int)
  | numberUnsigned (value : Nat)
  | numberFloat (value : Binary64)
  | string (value : String)
  | array (items : List Json)
  | object (entries : List (String × Json))

/-- The reading of the low `width` bits of an integer as a signed `width`-bit integer: a
conversion to a signed type of that width. -/
def signedWrap (width : Nat) (value : Int) : Int :=
  if value % 2 ^ width < 2 ^ (width - 1) then value % 2 ^ width
  else value % 2 ^ width - 2 ^ width

/-- A wrapped value is congruent to the value it wraps. -/
theorem signedWrap_emod (width : Nat) (value : Int) :
    signedWrap width value % 2 ^ width = value % 2 ^ width := by
  unfold signedWrap
  split <;> simp [Int.sub_emod]

/-- The reading as `int64_t` gives back every value of `int64_t`. -/
theorem signedWrap_of_int64 {value : Int} (low : -2 ^ 63 ≤ value) (high : value < 2 ^ 63) :
    signedWrap 64 value = value := by
  simp only [signedWrap]
  split <;> omega

/-- `static_cast<int>` of a double: truncation toward zero.  Beyond the range of `int` (NaN
and the infinities included) the conversion is undefined; the model gives what x86-64's
`cvttsd2si` gives there, `INT_MIN`, which is also the value at `-2^31` itself, the one value
of exponent `≥ 31` in range. -/
def Binary64.toInt32 (value : Binary64) : Int :=
  let bits := value.bits.toNat
  let exponent := bits / 2 ^ 52 % 2 ^ 11
  let magnitude : Int := (2 ^ 52 + bits % 2 ^ 52) / 2 ^ (1075 - exponent)
  if 1054 ≤ exponent then -2 ^ 31
  else if bits / 2 ^ 63 = 1 then -magnitude else magnitude

namespace Json

mutual
/-- `p` holds at every node of the document. -/
def every (p : Json → Bool) : Json → Bool
  | .array items => p (.array items) && everyItem p items
  | .object entries => p (.object entries) && everyEntry p entries
  | document => p document

/-- `p` holds at every node of every item. -/
def everyItem (p : Json → Bool) : List Json → Bool
  | [] => true
  | item :: items => every p item && everyItem p items

/-- `p` holds at every node of every entry's value. -/
def everyEntry (p : Json → Bool) : List (String × Json) → Bool
  | [] => true
  | (_, value) :: rest => every p value && everyEntry p rest
end

/-- A node that is not a NaN or infinite number. -/
def finiteNode : Json → Bool
  | .numberFloat value => decide value.IsFinite
  | _ => true

/-- Every number of the document is finite, so `dump` writes it as a number. -/
def finiteFloats : Json → Bool :=
  every finiteNode

/-- `json::contains`: the document is an object with an entry for `key`. -/
def contains : Json → String → Bool
  | .object entries, key => (entries.lookup key).isSome
  | _, _ => false

/-- `operator[]` read on an object that contains `key`: its entry. -/
def get : Json → String → Json
  | .object entries, key => (entries.lookup key).getD .null
  | _, _ => .null

/-- `document[key] = entry` through the non-const `operator[]`, which first turns a null
document into an empty object (`serialize` applies it to a null document or an object). -/
def set : Json → String → Json → Json
  | .object entries, key, entry =>
    .object (mapInsert (fun a b => stringLess a.data b.data) key entry entries)
  | _, key, entry => .object [(key, entry)]

/-- `type_name()`. -/
def typeName : Json → String
  | .null => "null"
  | .boolean _ => "boolean"
  | .numberInteger _ | .numberUnsigned _ | .numberFloat _ => "number"
  | .string _ => "string"
  | .array _ => "array"
  | .object _ => "object"

/-- The `what()` text of the `type_error` 302 that `get<T>()` throws on a value of another
type. -/
def typeError (expected : String) (value : Json) : String :=
  "[json.exception.type_error.302] type must be " ++ expected ++ ", but is " ++ value.typeName

/-- `get<std::string>()`: the text of a string, a `type_error` for anything else. -/
def getString : Json → Except String String
  | .string value => .ok value
  | value => .error (typeError "string" value)

/-- `get<int>()`: any number or Boolean, converted with `static_cast<int>`; a `type_error`
for anything else. -/
def getInt : Json → Except String Int
  | .numberInteger value => .ok (signedWrap 32 value)
  | .numberUnsigned value => .ok (signedWrap 32 value)
  | .numberFloat value => .ok value.toInt32
  | .boolean value => .ok (if value then 1 else 0)
  | value => .error (typeError "number" value)

@[simp] theorem contains_set (document entry : Json) (key k : String) :
    (document.set key entry).contains k = (k = key || document.contains k) := by
  cases document <;> simp only [set, contains, lookup_mapInsert, lookup_cons_eq_ite] <;>
    split_ifs <;> simp_all

@[simp] theorem get_set (document entry : Json) (key k : String) :
    (document.set key entry).get k = if k = key then entry else document.get k := by
  cases document <;> simp [set, get, lookup_cons_eq_ite] <;> split_ifs <;> rfl

@[simp] theorem contains_null (key : String) : Json.null.contains key = false :=
  rfl

theorem everyEntry_iff (p : Json → Bool) (entries : List (String × Json)) :
    everyEntry p entries = true ↔ ∀ entry ∈ entries, every p entry.2 = true := by
  induction entries with
  | nil => simp [everyEntry]
  | cons entry rest ih => simp [everyEntry, ih]

/-- Setting an entry with finite numbers keeps a document's numbers finite. -/
theorem finiteFloats_set {document entry : Json} (key : String)
    (finiteDocument : document.finiteFloats = true) (finiteEntry : entry.finiteFloats = true) :
    (document.set key entry).finiteFloats = true := by
  cases document
  case object entries =>
    simp only [set, finiteFloats, every, finiteNode, Bool.true_and, everyEntry_iff] at *
    intro member inserted
    rcases mem_mapInsert _ _ _ inserted with rfl | old
    · exact finiteEntry
    · exact finiteDocument member old
  all_goals simpa [set, finiteFloats, every, finiteNode, everyEntry] using finiteEntry

end Json

namespace JsonValue

mutual
/-- `p` holds at every node of the value. -/
def every (p : JsonValue → Bool) : JsonValue → Bool
  | .array items => p (.array items) && everyItem p items
  | .object entries => p (.object entries) && everyEntry p entries
  | value => p value

/-- `p` holds at every node of every item. -/
def everyItem (p : JsonValue → Bool) : List JsonValue → Bool
  | [] => true
  | item :: items => every p item && everyItem p items

/-- `p` holds at every node of every entry's value. -/
def everyEntry (p : JsonValue → Bool) : List (String × JsonValue) → Bool
  | [] => true
  | (_, value) :: rest => every p value && everyEntry p rest
end

/-- A node that is not a NaN or infinite double. -/
def finiteNode : JsonValue → Bool
  | .double value => decide value.IsFinite
  | _ => true

/-- Every double of the value is finite. -/
def finiteDoubles : JsonValue → Bool :=
  every finiteNode

/-- Keys in strictly increasing `std::less<std::string>` order: the order of a `std::map`. -/
def KeysAscending (keys : List String) : Prop :=
  keys.Pairwise fun a b => stringLess a.data b.data = true

instance (keys : List String) : Decidable (KeysAscending keys) :=
  inferInstanceAs (Decidable (List.Pairwise _ _))

/-- A node that is not an object with keys out of order. -/
def sortedNode : JsonValue → Bool
  | .object entries => decide (KeysAscending (entries.map Prod.fst))
  | _ => true

/-- Every object of the value is a `std::map`: its keys are in strictly increasing order. -/
def sortedKeys : JsonValue → Bool :=
  every sortedNode

/-- A node that is not an `int` outside `int64_t`. -/
def int64Node : JsonValue → Bool
  | .int value => decide (-2 ^ 63 ≤ value ∧ value < 2 ^ 63)
  | _ => true

/-- Every `int` of the value is an `int64_t`, as `JsonValue` stores it. -/
def int64Ints : JsonValue → Bool :=
  every int64Node

end JsonValue

mutual
/-- `jsonValueToNlohmann`. -/
def jsonValueToNlohmann : JsonValue → Json
  | .null => .null
  | .bool value => .boolean value
  | .int value => .numberInteger value
  | .double value => .numberFloat value
  | .string value => .string value
  | .array items => .array (itemsToNlohmann items)
  | .object entries => entriesToNlohmann (.object []) entries

/-- The array loop of `jsonValueToNlohmann`: `arr.push_back` of each converted item. -/
def itemsToNlohmann : List JsonValue → List Json
  | [] => []
  | item :: items => jsonValueToNlohmann item :: itemsToNlohmann items

/-- The object loop of `jsonValueToNlohmann`: `obj[key] = jsonValueToNlohmann(val)` for each
entry in key order. -/
def entriesToNlohmann (obj : Json) : List (String × JsonValue) → Json
  | [] => obj
  | (key, value) :: rest => entriesToNlohmann (obj.set key (jsonValueToNlohmann value)) rest
end

mutual
/-- `nlohmannToJsonValue`: an unsigned number becomes the `int64_t` that `get<int64_t>()`
gives. -/
def nlohmannToJsonValue : Json → JsonValue
  | .null => .null
  | .boolean value => .bool value
  | .numberInteger value => .int value
  | .numberUnsigned value => .int (signedWrap 64 value)
  | .numberFloat value => .double value
  | .string value => .string value
  | .array items => .array (itemsToJsonValue items)
  | .object entries => .object (entriesToJsonValue [] entries)

/-- The array loop of `nlohmannToJsonValue`. -/
def itemsToJsonValue : List Json → List JsonValue
  | [] => []
  | item :: items => nlohmannToJsonValue item :: itemsToJsonValue items

/-- The object loop of `nlohmannToJsonValue`: `obj[it.key()] = nlohmannToJsonValue(it.value())`
into a `JsonValue::Object`, for each entry in key order. -/
def entriesToJsonValue (obj : List (String × JsonValue)) :
    List (String × Json) → List (String × JsonValue)
  | [] => obj
  | (key, value) :: rest =>
    entriesToJsonValue (mapInsert (fun a b => stringLess a.data b.data) key
      (nlohmannToJsonValue value) obj) rest
end


theorem stringLess_irrefl (chars : List Char) : stringLess chars chars = false := by
  induction chars with
  | nil => rfl
  | cons c rest ih => simp [stringLess, ih]

theorem stringLess_asymm {first second : List Char} (less : stringLess first second = true) :
    stringLess second first = false := by
  induction first generalizing second with
  | nil => cases second <;> simp_all [stringLess]
  | cons a as ih =>
    cases second with
    | nil => simp [stringLess] at less
    | cons b bs =>
      simp only [stringLess] at less ⊢
      by_cases same : a = b
      · subst same
        simpa using ih (by simpa using less)
      · have below : a.toNat < b.toNat := by simpa [same] using less
        simp [Ne.symm same]
        omega

/-- `std::less<std::string>` is transitive. -/
theorem stringLess_trans {a b c : List Char} (ab : stringLess a b = true)
    (bc : stringLess b c = true) : stringLess a c = true := by
  induction a generalizing b c with
  | nil => cases b <;> cases c <;> simp_all [stringLess]
  | cons x xs ih =>
    cases b with
    | nil => simp [stringLess] at ab
    | cons y ys =>
      cases c with
      | nil => simp [stringLess] at bc
      | cons z zs =>
        simp only [stringLess] at ab bc ⊢
        by_cases xy : x = y <;> by_cases yz : y = z
        · subst xy yz
          rw [if_pos rfl] at ab bc ⊢
          exact ih ab bc
        · subst xy
          simpa [yz] using bc
        · subst yz
          simpa [xy] using ab
        · have below : x.toNat < y.toNat := by simpa [xy] using ab
          have above : y.toNat < z.toNat := by simpa [yz] using bc
          have xz : x ≠ z := fun same => by subst same; omega
          simp only [xz, if_false, decide_eq_true_eq]
          omega

/-- `std::less<std::string>` is total: of two different keys, one is below the other. -/
theorem stringLess_of_not_lt {a b : List Char} (notBelow : stringLess a b = false)
    (differ : a ≠ b) : stringLess b a = true := by
  induction a generalizing b with
  | nil => cases b <;> simp_all [stringLess]
  | cons x xs ih =>
    cases b with
    | nil => rfl
    | cons y ys =>
      simp only [stringLess] at notBelow ⊢
      by_cases xy : x = y
      · subst xy
        rw [if_pos rfl] at notBelow ⊢
        exact ih notBelow fun same => differ (same ▸ rfl)
      · have apart : x.toNat ≠ y.toNat := fun same => xy (by simpa using congrArg Char.ofNat same)
        have notLess : ¬x.toNat < y.toNat := by simpa [xy] using notBelow
        simp only [Ne.symm xy, if_false, decide_eq_true_eq]
        omega

/-- Insertion keeps the keys of a `std::map<std::string, V>` in increasing order. -/
theorem keysAscending_mapInsert {V : Type} (key : String) (value : V)
    {entries : List (String × V)} (sorted : JsonValue.KeysAscending (entries.map Prod.fst)) :
    JsonValue.KeysAscending
      ((mapInsert (fun a b => stringLess a.data b.data) key value entries).map Prod.fst) := by
  induction entries with
  | nil => simp [mapInsert, JsonValue.KeysAscending]
  | cons head rest ih =>
    obtain ⟨k, v⟩ := head
    have headLess : ∀ entry ∈ rest, stringLess k.data entry.1.data = true := fun entry member =>
      List.rel_of_pairwise_cons sorted (List.mem_map_of_mem _ member)
    have restSorted : JsonValue.KeysAscending (rest.map Prod.fst) := sorted.of_cons
    simp only [mapInsert]
    split_ifs with before same
    · refine List.Pairwise.cons (fun other member => ?_) sorted
      simp only [List.map_cons, List.mem_cons, List.mem_map] at member
      rcases member with rfl | ⟨entry, member, rfl⟩
      · exact before
      · exact stringLess_trans before (headLess entry member)
    · subst same
      refine List.Pairwise.cons (fun other member => ?_) restSorted
      obtain ⟨entry, inRest, rfl⟩ := List.mem_map.mp member
      exact headLess entry inRest
    · have headBefore : stringLess k.data key.data = true :=
        stringLess_of_not_lt (by simpa using before) fun data => same (String.ext data)
      refine List.Pairwise.cons (fun other member => ?_) (ih restSorted)
      obtain ⟨entry, inserted, rfl⟩ := List.mem_map.mp member
      rcases mem_mapInsert _ key value inserted with rfl | old
      · exact headBefore
      · exact headLess entry old

/-- Inserting a key above every key of a `std::map` appends its entry. -/
theorem mapInsert_of_above {V : Type} {key : String} {value : V} {entries : List (String × V)}
    (above : ∀ entry ∈ entries, stringLess entry.1.data key.data = true) :
    mapInsert (fun a b => stringLess a.data b.data) key value entries = entries ++ [(key, value)] := by
  induction entries with
  | nil => rfl
  | cons entry rest ih =>
    obtain ⟨k, v⟩ := entry
    have below : stringLess k.data key.data = true := above (k, v) (List.mem_cons_self _ _)
    have notBefore : stringLess key.data k.data = false := stringLess_asymm below
    have differ : key ≠ k := by
      rintro rfl
      simp [stringLess_irrefl] at below
    simp only [mapInsert, notBefore, differ, if_false, Bool.false_eq_true,
      ih fun entry member => above entry (List.mem_cons_of_mem _ member), List.cons_append]

/-- The object loop of `jsonValueToNlohmann` over a `std::map` converts each entry in place. -/
theorem entriesToNlohmann_of_ascending (acc : List (String × Json))
    (entries : List (String × JsonValue))
    (ascending : JsonValue.KeysAscending (acc.map Prod.fst ++ entries.map Prod.fst)) :
    entriesToNlohmann (.object acc) entries =
      .object (acc ++ entries.map fun entry => (entry.1, jsonValueToNlohmann entry.2)) := by
  induction entries generalizing acc with
  | nil => simp [entriesToNlohmann]
  | cons entry rest ih =>
    obtain ⟨key, value⟩ := entry
    have above : ∀ other ∈ acc, stringLess other.1.data key.data = true := by
      intro other member
      exact (List.pairwise_append.mp ascending).2.2 _ (List.mem_map_of_mem _ member) _
        (List.mem_cons_self _ _)
    simp only [entriesToNlohmann, Json.set, mapInsert_of_above above]
    rw [ih _ (by simpa using ascending)]
    simp

/-- The object loop of `nlohmannToJsonValue` over a `std::map` converts each entry in place. -/
theorem entriesToJsonValue_of_ascending (acc : List (String × JsonValue))
    (entries : List (String × Json))
    (ascending : JsonValue.KeysAscending (acc.map Prod.fst ++ entries.map Prod.fst)) :
    entriesToJsonValue acc entries =
      acc ++ entries.map fun entry => (entry.1, nlohmannToJsonValue entry.2) := by
  induction entries generalizing acc with
  | nil => simp [entriesToJsonValue]
  | cons entry rest ih =>
    obtain ⟨key, value⟩ := entry
    have above : ∀ other ∈ acc, stringLess other.1.data key.data = true := by
      intro other member
      exact (List.pairwise_append.mp ascending).2.2 _ (List.mem_map_of_mem _ member) _
        (List.mem_cons_self _ _)
    simp only [entriesToJsonValue, mapInsert_of_above above]
    rw [ih _ (by simpa using ascending)]
    simp

mutual
/-- `nlohmannToJsonValue` undoes `jsonValueToNlohmann` on every value whose objects are
`std::map`s, at every nesting depth. -/
theorem nlohmannToJsonValue_jsonValueToNlohmann :
    (value : JsonValue) → value.sortedKeys = true →
      nlohmannToJsonValue (jsonValueToNlohmann value) = value
  | .null, _ | .bool _, _ | .int _, _ | .double _, _ | .string _, _ => rfl
  | .array items, sorted => by
    simp only [JsonValue.sortedKeys, JsonValue.every, JsonValue.sortedNode, Bool.true_and] at sorted
    simp only [jsonValueToNlohmann, nlohmannToJsonValue, itemsToJsonValue_itemsToNlohmann items sorted]
  | .object entries, sorted => by
    simp only [JsonValue.sortedKeys, JsonValue.every, JsonValue.sortedNode, Bool.and_eq_true,
      decide_eq_true_eq] at sorted
    have converted := entriesToNlohmann_of_ascending [] entries (by simpa using sorted.1)
    simp only [jsonValueToNlohmann, converted, List.nil_append, nlohmannToJsonValue]
    rw [entriesToJsonValue_of_ascending [] _ (by simpa [Function.comp_def] using sorted.1)]
    simp only [List.nil_append, List.map_map]
    exact congrArg JsonValue.object (entries_roundtrip entries sorted.2)

theorem itemsToJsonValue_itemsToNlohmann : (items : List JsonValue) →
    JsonValue.everyItem JsonValue.sortedNode items = true →
    itemsToJsonValue (itemsToNlohmann items) = items
  | [], _ => rfl
  | item :: items, sorted => by
    simp only [JsonValue.everyItem, Bool.and_eq_true] at sorted
    simp only [itemsToNlohmann, itemsToJsonValue,
      nlohmannToJsonValue_jsonValueToNlohmann item sorted.1,
      itemsToJsonValue_itemsToNlohmann items sorted.2]

theorem entries_roundtrip : (entries : List (String × JsonValue)) →
    JsonValue.everyEntry JsonValue.sortedNode entries = true →
    entries.map (fun entry => (entry.1, nlohmannToJsonValue (jsonValueToNlohmann entry.2))) =
      entries
  | [], _ => rfl
  | (key, value) :: rest, sorted => by
    simp only [JsonValue.everyEntry, Bool.and_eq_true] at sorted
    simp only [List.map_cons, nlohmannToJsonValue_jsonValueToNlohmann value sorted.1,
      entries_roundtrip rest sorted.2]
end

mutual
/-- On a value whose objects are `std::map`s, the converted document has finite numbers
exactly when the value has finite doubles. -/
theorem finiteFloats_jsonValueToNlohmann :
    (value : JsonValue) → value.sortedKeys = true →
      (jsonValueToNlohmann value).finiteFloats = value.finiteDoubles
  | .null, _ | .bool _, _ | .int _, _ | .double _, _ | .string _, _ => rfl
  | .array items, sorted => by
    simp only [JsonValue.sortedKeys, JsonValue.every, JsonValue.sortedNode, Bool.true_and]
      at sorted
    simp only [jsonValueToNlohmann, Json.finiteFloats, Json.every, Json.finiteNode,
      JsonValue.finiteDoubles, JsonValue.every, JsonValue.finiteNode,
      everyItem_itemsToNlohmann items sorted]
  | .object entries, sorted => by
    simp only [JsonValue.sortedKeys, JsonValue.every, JsonValue.sortedNode, Bool.and_eq_true,
      decide_eq_true_eq] at sorted
    simp only [jsonValueToNlohmann, entriesToNlohmann_of_ascending [] entries (by simpa using sorted.1),
      List.nil_append, Json.finiteFloats, Json.every, Json.finiteNode, JsonValue.finiteDoubles,
      JsonValue.every, JsonValue.finiteNode, everyEntry_entriesToNlohmann entries sorted.2]

theorem everyItem_itemsToNlohmann : (items : List JsonValue) →
    JsonValue.everyItem JsonValue.sortedNode items = true →
    Json.everyItem Json.finiteNode (itemsToNlohmann items) =
      JsonValue.everyItem JsonValue.finiteNode items
  | [], _ => rfl
  | item :: items, sorted => by
    simp only [JsonValue.everyItem, Bool.and_eq_true] at sorted
    have head := finiteFloats_jsonValueToNlohmann item sorted.1
    simp only [Json.finiteFloats, JsonValue.finiteDoubles] at head
    simp only [itemsToNlohmann, Json.everyItem, JsonValue.everyItem, head,
      everyItem_itemsToNlohmann items sorted.2]

theorem everyEntry_entriesToNlohmann : (entries : List (String × JsonValue)) →
    JsonValue.everyEntry JsonValue.sortedNode entries = true →
    Json.everyEntry Json.finiteNode
        (entries.map fun entry => (entry.1, jsonValueToNlohmann entry.2)) =
      JsonValue.everyEntry JsonValue.finiteNode entries
  | [], _ => rfl
  | (key, value) :: rest, sorted => by
    simp only [JsonValue.everyEntry, Bool.and_eq_true] at sorted
    have head := finiteFloats_jsonValueToNlohmann value sorted.1
    simp only [Json.finiteFloats, JsonValue.finiteDoubles] at head
    simp only [List.map_cons, Json.everyEntry, JsonValue.everyEntry, head,
      everyEntry_entriesToNlohmann rest sorted.2]
end

namespace Json

/-- A node that `nlohmann::json` can hold: an integer of its 64-bit types, an object that is a
`std::map`. -/
def wellFormedNode : Json → Bool
  | .numberInteger value => decide (-2 ^ 63 ≤ value ∧ value < 2 ^ 63)
  | .numberUnsigned value => decide (value < 2 ^ 64)
  | .object entries => decide (JsonValue.KeysAscending (entries.map Prod.fst))
  | _ => true

/-- A document that `nlohmann::json` can hold. -/
def wellFormed : Json → Bool :=
  every wellFormedNode

mutual
/-- The document `json::parse` reads from the dump of `document`: its parser stores every
integer without a sign as `number_unsigned`. -/
def normalize : Json → Json
  | .numberInteger value =>
    if 0 ≤ value then .numberUnsigned value.toNat else .numberInteger value
  | .array items => .array (normalizeItems items)
  | .object entries => .object (normalizeEntries entries)
  | document => document

/-- `normalize` of every item. -/
def normalizeItems : List Json → List Json
  | [] => []
  | item :: items => normalize item :: normalizeItems items

/-- `normalize` of every entry's value. -/
def normalizeEntries : List (String × Json) → List (String × Json)
  | [] => []
  | (key, value) :: rest => (key, normalize value) :: normalizeEntries rest
end

theorem lookup_normalizeEntries (entries : List (String × Json)) (key : String) :
    (normalizeEntries entries).lookup key = (entries.lookup key).map normalize := by
  induction entries with
  | nil => rfl
  | cons entry rest ih =>
    obtain ⟨k, value⟩ := entry
    simp only [normalizeEntries, lookup_cons_eq_ite, ih]
    split_ifs <;> rfl

theorem keys_normalizeEntries (entries : List (String × Json)) :
    (normalizeEntries entries).map Prod.fst = entries.map Prod.fst := by
  induction entries with
  | nil => rfl
  | cons entry rest ih => simp [normalizeEntries, ih]

@[simp] theorem contains_normalize (document : Json) (key : String) :
    document.normalize.contains key = document.contains key := by
  cases document
  case numberInteger value => by_cases nonneg : 0 ≤ value <;> simp [normalize, nonneg, contains]
  case object entries => simp [normalize, contains, lookup_normalizeEntries]
  all_goals rfl

@[simp] theorem get_normalize (document : Json) (key : String) :
    document.normalize.get key = (document.get key).normalize := by
  cases document
  case numberInteger value => by_cases nonneg : 0 ≤ value <;> simp [normalize, nonneg, get]
  case object entries =>
    simp only [normalize, get, lookup_normalizeEntries]
    cases entries.lookup key <;> rfl
  all_goals rfl

@[simp] theorem getInt_normalize (document : Json) : document.normalize.getInt = document.getInt := by
  cases document
  case numberInteger value =>
    by_cases nonneg : 0 ≤ value
    · simp only [normalize, nonneg, if_true, getInt, Int.toNat_of_nonneg nonneg]
    · simp only [normalize, nonneg, if_false]
  all_goals rfl

@[simp] theorem getString_normalize (document : Json) :
    document.normalize.getString = document.getString := by
  cases document
  case numberInteger value => by_cases nonneg : 0 ≤ value <;> simp [normalize, nonneg, getString,
    typeError, typeName]
  all_goals rfl

theorem everyEntry_of_mem {p : Json → Bool} {entries : List (String × Json)}
    (every : everyEntry p entries = true) {entry : String × Json} (member : entry ∈ entries) :
    entry.2.every p = true :=
  (everyEntry_iff p entries).mp every entry member

theorem mem_of_lookup_eq_some {V : Type} {entries : List (String × V)} {key : String} {value : V}
    (found : entries.lookup key = some value) : (key, value) ∈ entries := by
  induction entries with
  | nil => cases found
  | cons entry rest ih =>
    obtain ⟨k, v⟩ := entry
    rw [lookup_cons_eq_ite] at found
    split_ifs at found with same
    · cases found; subst same; exact List.mem_cons_self _ _
    · exact List.mem_cons_of_mem _ (ih found)

/-- An entry of a well-formed document is well formed. -/
theorem wellFormed_get {document : Json} (wellFormedDocument : document.wellFormed = true)
    (key : String) : (document.get key).wellFormed = true := by
  cases document
  case object entries =>
    simp only [wellFormed, every, Bool.and_eq_true] at wellFormedDocument
    simp only [get]
    cases found : entries.lookup key with
    | none => rfl
    | some value =>
      exact everyEntry_of_mem wellFormedDocument.2 (mem_of_lookup_eq_some found)
  all_goals rfl

/-- Setting a well-formed entry keeps a document well formed. -/
theorem wellFormed_set {document entry : Json} (key : String)
    (wellFormedDocument : document.wellFormed = true) (wellFormedEntry : entry.wellFormed = true) :
    (document.set key entry).wellFormed = true := by
  cases document
  case object entries =>
    simp only [set, wellFormed, every, wellFormedNode, Bool.and_eq_true, decide_eq_true_eq,
      everyEntry_iff] at *
    refine ⟨keysAscending_mapInsert key entry wellFormedDocument.1, fun member inserted => ?_⟩
    rcases mem_mapInsert _ _ _ inserted with rfl | old
    · exact wellFormedEntry
    · exact wellFormedDocument.2 member old
  all_goals simpa [set, wellFormed, every, wellFormedNode, everyEntry, JsonValue.KeysAscending]
    using wellFormedEntry

end Json

mutual
/-- On a well-formed document, `nlohmannToJsonValue` reads what `json::parse` gives back for its
dump as it reads the document: an integer without a sign below `2^63` reads the same from
`number_unsigned`. -/
theorem nlohmannToJsonValue_normalize :
    (document : Json) → document.wellFormed = true →
      nlohmannToJsonValue document.normalize = nlohmannToJsonValue document
  | .null, _ | .boolean _, _ | .numberUnsigned _, _ | .numberFloat _, _ | .string _, _ => rfl
  | .numberInteger value, fits => by
    simp only [Json.wellFormed, Json.every, Json.wellFormedNode, decide_eq_true_eq] at fits
    by_cases nonneg : 0 ≤ value
    · have wrapped : signedWrap 64 (value.toNat : Int) = value := by
        rw [Int.toNat_of_nonneg nonneg]
        exact signedWrap_of_int64 fits.1 fits.2
      simp only [Json.normalize, nonneg, if_true, nlohmannToJsonValue, wrapped]
    · simp only [Json.normalize, nonneg, if_false]
  | .array items, fits => by
    simp only [Json.wellFormed, Json.every, Json.wellFormedNode, Bool.true_and] at fits
    simp only [Json.normalize, nlohmannToJsonValue, itemsToJsonValue_normalizeItems items fits]
  | .object entries, fits => by
    simp only [Json.wellFormed, Json.every, Json.wellFormedNode, Bool.and_eq_true,
      decide_eq_true_eq] at fits
    have keys := Json.keys_normalizeEntries entries
    simp only [Json.normalize, nlohmannToJsonValue,
      entriesToJsonValue_of_ascending [] (Json.normalizeEntries entries) (by simpa [keys] using fits.1),
      entriesToJsonValue_of_ascending [] entries (by simpa using fits.1), List.nil_append,
      entries_normalizeEntries entries fits.2]

theorem itemsToJsonValue_normalizeItems : (items : List Json) →
    Json.everyItem Json.wellFormedNode items = true →
    itemsToJsonValue (Json.normalizeItems items) = itemsToJsonValue items
  | [], _ => rfl
  | item :: items, fits => by
    simp only [Json.everyItem, Bool.and_eq_true] at fits
    simp only [Json.normalizeItems, itemsToJsonValue, nlohmannToJsonValue_normalize item fits.1,
      itemsToJsonValue_normalizeItems items fits.2]

theorem entries_normalizeEntries : (entries : List (String × Json)) →
    Json.everyEntry Json.wellFormedNode entries = true →
    (Json.normalizeEntries entries).map (fun entry => (entry.1, nlohmannToJsonValue entry.2)) =
      entries.map fun entry => (entry.1, nlohmannToJsonValue entry.2)
  | [], _ => rfl
  | (key, value) :: rest, fits => by
    simp only [Json.everyEntry, Bool.and_eq_true] at fits
    simp only [Json.normalizeEntries, List.map_cons, nlohmannToJsonValue_normalize value fits.1,
      entries_normalizeEntries rest fits.2]
end

mutual
/-- A value whose objects are `std::map`s and whose `int`s are `int64_t`s becomes a well-formed
document. -/
theorem wellFormed_jsonValueToNlohmann :
    (value : JsonValue) → value.sortedKeys = true → value.int64Ints = true →
      (jsonValueToNlohmann value).wellFormed = true
  | .null, _, _ | .bool _, _, _ | .double _, _, _ | .string _, _, _ => rfl
  | .int _, _, fits => by
    simpa [JsonValue.int64Ints, JsonValue.every, JsonValue.int64Node, jsonValueToNlohmann,
      Json.wellFormed, Json.every, Json.wellFormedNode] using fits
  | .array items, sorted, fits => by
    simp only [JsonValue.sortedKeys, JsonValue.int64Ints, JsonValue.every, JsonValue.sortedNode,
      JsonValue.int64Node, Bool.true_and] at sorted fits
    simp only [jsonValueToNlohmann, Json.wellFormed, Json.every, Json.wellFormedNode, Bool.true_and,
      wellFormed_itemsToNlohmann items sorted fits]
  | .object entries, sorted, fits => by
    simp only [JsonValue.sortedKeys, JsonValue.int64Ints, JsonValue.every, JsonValue.sortedNode,
      JsonValue.int64Node, Bool.and_eq_true, decide_eq_true_eq, Bool.true_and] at sorted fits
    simp only [jsonValueToNlohmann, entriesToNlohmann_of_ascending [] entries (by simpa using sorted.1),
      List.nil_append, Json.wellFormed, Json.every, Json.wellFormedNode, List.map_map,
      Bool.and_eq_true, decide_eq_true_eq]
    exact ⟨by simpa [Function.comp_def] using sorted.1,
      wellFormed_entriesToNlohmann entries sorted.2 fits⟩

theorem wellFormed_itemsToNlohmann : (items : List JsonValue) →
    JsonValue.everyItem JsonValue.sortedNode items = true →
    JsonValue.everyItem JsonValue.int64Node items = true →
    Json.everyItem Json.wellFormedNode (itemsToNlohmann items) = true
  | [], _, _ => rfl
  | item :: items, sorted, fits => by
    simp only [JsonValue.everyItem, Bool.and_eq_true] at sorted fits
    simp only [itemsToNlohmann, Json.everyItem, Bool.and_eq_true]
    exact ⟨wellFormed_jsonValueToNlohmann item sorted.1 fits.1,
      wellFormed_itemsToNlohmann items sorted.2 fits.2⟩

theorem wellFormed_entriesToNlohmann : (entries : List (String × JsonValue)) →
    JsonValue.everyEntry JsonValue.sortedNode entries = true →
    JsonValue.everyEntry JsonValue.int64Node entries = true →
    Json.everyEntry Json.wellFormedNode
      (entries.map fun entry => (entry.1, jsonValueToNlohmann entry.2)) = true
  | [], _, _ => rfl
  | (key, value) :: rest, sorted, fits => by
    simp only [JsonValue.everyEntry, Bool.and_eq_true] at sorted fits
    simp only [List.map_cons, Json.everyEntry, Bool.and_eq_true]
    exact ⟨wellFormed_jsonValueToNlohmann value sorted.1 fits.1,
      wellFormed_entriesToNlohmann rest sorted.2 fits.2⟩
end

/-- The JSON text layer: `dump` and `json::parse` (whose failure carries the `what()` text of
its `parse_error`), and the byte length of a text.  Parsing the dump of a document that
`nlohmann::json` can hold and whose numbers are finite gives it back as `json::parse` reads it:
an integer without a sign comes back as `number_unsigned`. -/
structure JsonCodec (Text : Type) where
  dump : Json → Text
  parse : Text → Except String Json
  size : Text → Nat
  parse_dump : ∀ document, document.wellFormed = true → document.finiteFloats = true →
    parse (dump document) = .ok document.normalize

/-- The codec whose texts are the parse results themselves, documents or `parse_error` texts:
the texts of the concrete runs of the model.  It does not measure texts. -/
def JsonCodec.documents : JsonCodec (Except String Json) where
  dump document := .ok document.normalize
  parse := id
  size := fun _ => 0
  parse_dump := fun _ _ _ => rfl


end GatewaySdk
