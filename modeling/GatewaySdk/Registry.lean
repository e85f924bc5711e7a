import GatewaySdk.Matching
import Mathlib.Data.List.Nodup

/-!
# The subscription registry

`subscriptions_` of `GatewayClient::Impl`, a `std::map` from subscription id to subscription
record.  Its entries carry their strictly increasing key order, so a map with a repeated or
misplaced key cannot be built.  `dispatch` is the loop of `handleSubscriptionMessage`: the ids
of the handlers it invokes, in the order it invokes them.

On valid patterns and a concrete subject, the loop invokes each active subscription at most
once, and exactly those whose pattern `matchesSubject` accepts: NATS matching for patterns
without `*`, every subject for the other patterns unless they end in `>`, and no subject for
those that do.
-/

namespace GatewaySdk

/-- `SubscriptionId` of `types.h`, a `uint64_t`. -/
abbrev SubscriptionId := Nat

/-- `Subscription` of `message.h`.  The handler is user code; the model names it by the id of
its subscription. -/
structure Subscription where
  id : SubscriptionId
  subject : String
  active : Bool := true
  deriving DecidableEq, Repr

/-- Insertion keeps a `std::map` with natural keys in increasing key order. -/
theorem pairwise_mapInsert {V : Type} (key : Nat) (value : V) {entries : List (Nat × V)}
    (sorted : entries.Pairwise fun a b => a.1 < b.1) :
    (mapInsert Nat.blt key value entries).Pairwise fun a b => a.1 < b.1 := by
  induction entries with
  | nil => simp [mapInsert]
  | cons head rest ih =>
    obtain ⟨headLess, restSorted⟩ := List.pairwise_cons.mp sorted
    unfold mapInsert
    split_ifs with before same
    · have keyLess : key < head.1 := by simpa using before
      refine List.Pairwise.cons (fun entry member => ?_) sorted
      rcases List.mem_cons.mp member with rfl | later
      · exact keyLess
      · exact keyLess.trans (headLess entry later)
    · subst same
      exact List.Pairwise.cons (fun entry member => headLess entry member) restSorted
    · have headBefore : head.1 < key := by
        simp only [Nat.blt_eq, not_lt] at before
        exact lt_of_le_of_ne before (Ne.symm same)
      refine List.Pairwise.cons (fun entry member => ?_) (ih restSorted)
      rcases mem_mapInsert Nat.blt key value member with rfl | old
      · exact headBefore
      · exact headLess entry old

/-- `std::map<SubscriptionId, Subscription>`: its entries in strictly increasing id order. -/
structure SubscriptionMap where
  entries : List (SubscriptionId × Subscription)
  sorted : entries.Pairwise fun a b => a.1 < b.1

namespace SubscriptionMap

/-- The empty map of a new client. -/
def empty : SubscriptionMap :=
  ⟨[], List.Pairwise.nil⟩

/-- `subscriptions_.find(id)`. -/
def find? (map : SubscriptionMap) (id : SubscriptionId) : Option Subscription :=
  map.entries.lookup id

/-- `subscriptions_[id] = sub`. -/
def insert (map : SubscriptionMap) (id : SubscriptionId) (sub : Subscription) :
    SubscriptionMap :=
  ⟨mapInsert Nat.blt id sub map.entries, pairwise_mapInsert id sub map.sorted⟩

/-- `subscriptions_.erase(id)`. -/
def erase (map : SubscriptionMap) (id : SubscriptionId) : SubscriptionMap :=
  ⟨map.entries.filter (·.1 ≠ id), map.sorted.sublist (List.filter_sublist _)⟩

@[simp] theorem find?_insert (map : SubscriptionMap) (id other : SubscriptionId)
    (sub : Subscription) :
    (map.insert id sub).find? other = if other = id then some sub else map.find? other :=
  lookup_mapInsert _ _ _ _ _

@[simp] theorem find?_erase (map : SubscriptionMap) (id other : SubscriptionId) :
    (map.erase id).find? other = if other = id then none else map.find? other := by
  simp [erase, find?]

/-- In a map with distinct keys, lookup finds exactly the stored entries. -/
theorem find?_eq_some_iff (map : SubscriptionMap) (id : SubscriptionId) (sub : Subscription) :
    map.find? id = some sub ↔ (id, sub) ∈ map.entries := by
  obtain ⟨entries, sorted⟩ := map
  simp only [find?]
  induction entries with
  | nil => simp
  | cons head rest ih =>
    obtain ⟨headLess, restSorted⟩ := List.pairwise_cons.mp sorted
    rw [lookup_cons_eq_ite, List.mem_cons]
    by_cases here : id = head.1
    · subst here
      have notLater : (head.1, sub) ∉ rest := fun later => lt_irrefl _ (headLess (head.1, sub) later)
      simp only [if_true, Option.some.injEq, notLater, or_false]
      exact ⟨fun same => by rw [← same], fun same => by rw [← same]⟩
    · simp only [here, if_false, ih restSorted]
      exact ⟨.inr, fun found => found.resolve_left fun same => here (by rw [← same])⟩

end SubscriptionMap

/-- The loop of `GatewayClient::Impl::handleSubscriptionMessage`: in id order, the ids of the
active subscriptions whose pattern `matchesSubject` accepts the subject. -/
def dispatch (subscriptions : SubscriptionMap) (subject : String) : List SubscriptionId :=
  (subscriptions.entries.filter fun entry =>
    entry.2.active && GatewayClient.matchesSubject entry.2.subject subject).map Prod.fst

theorem dispatch_nodup (subscriptions : SubscriptionMap) (subject : String) :
    (dispatch subscriptions subject).Nodup := by
  unfold dispatch
  exact ((subscriptions.sorted.sublist (List.filter_sublist _)).map Prod.fst
    fun _ _ less => less).nodup

theorem mem_dispatch (subscriptions : SubscriptionMap) (subject : String) (id : SubscriptionId) :
    id ∈ dispatch subscriptions subject ↔
      ∃ sub, subscriptions.find? id = some sub ∧ sub.active = true ∧
        GatewayClient.matchesSubject sub.subject subject = true := by
  simp only [dispatch, List.mem_map, List.mem_filter, Bool.and_eq_true,
    SubscriptionMap.find?_eq_some_iff]
  constructor
  · rintro ⟨⟨_, sub⟩, ⟨member, active, matched⟩, rfl⟩
    exact ⟨sub, member, active, matched⟩
  · rintro ⟨sub, member, active, matched⟩
    exact ⟨(id, sub), ⟨member, active, matched⟩, rfl⟩

/-- On a registry of valid patterns and a valid subject without `*`, the dispatch loop invokes
each handler at most once, and it invokes exactly the active subscriptions whose pattern
either has no `*` and matches under `matchesPattern`, or has a `*` and does not end in `>`. -/
theorem dispatch_matches_unless_star (subscriptions : SubscriptionMap)
    (validPatterns : ∀ entry ∈ subscriptions.entries,
      Protocol.isValidSubject entry.2.subject = true)
    {subject : String} (validSubject : Protocol.isValidSubject subject = true)
    (concrete : '*' ∉ subject.data) :
    (dispatch subscriptions subject).Nodup ∧
      ∀ id, id ∈ dispatch subscriptions subject ↔
        ∃ sub, subscriptions.find? id = some sub ∧ sub.active = true ∧
          if '*' ∈ sub.subject.data then sub.subject.data.getLast? ≠ some '>'
          else AuthManager.matchesPattern sub.subject subject = true := by
  refine ⟨dispatch_nodup _ _, fun id => ?_⟩
  rw [mem_dispatch]
  refine exists_congr fun sub => and_congr_right fun found => and_congr_right fun _ => ?_
  have validPattern := validPatterns _ ((SubscriptionMap.find?_eq_some_iff _ _ _).mp found)
  rw [GatewayClient.matchesSubject_eq_ite validPattern validSubject concrete]
  split <;> simp

/-- A `*` pattern lets every message through for the gateway to filter: `a.*` receives a
message on `b.c`, which NATS matching rejects. -/
example : dispatch (SubscriptionMap.empty.insert 1 { id := 1, subject := "a.*" }) "b.c" = [1] ∧
    AuthManager.matchesPattern "a.*" "b.c" = false := by
  decide

end GatewaySdk
