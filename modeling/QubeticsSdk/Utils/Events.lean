import QubeticsSdk.Core.Types
import QubeticsSdk.Utils.Strconv

/-! # Reading a session id from the events of a transaction

    Package `utils` reads what a transaction did from the events CometBFT
    returns with its result. `EventFromEvents` picks the first event of a
    type, named by a string or by a protobuf message;
    `AttributeValueFromEvent` picks the first attribute of a key; and
    `IDFromEvents` reads the "id" attribute of an event, trims its quotes
    (typed events carry their fields as JSON, so a `uint64` id arrives as
    `"42"` with the quotes) and parses it with `strconv.ParseUint(_, 10, 64)`.

    Results, over every list of events:
    * the id the chain writes into the first event of the type is read
      back whenever it fits in `uint64`, whatever events come before or
      after it and however many quotes surround it (`IDFromEvents_emitted`);
    * the id comes from the first event of the type alone: later events
      are never read, so a transaction with several such events yields the
      first one's id, and fails when that one has no id
      (`IDFromEvents_first_event`);
    * conversely, an id that is read stands in the first event of the type,
      as the first "id" attribute, written as decimal digits between quotes
      (`IDFromEvents_sound`). Together with the first result this says
      exactly which values `IDFromEvents` accepts.
-/

namespace Qubetics.Events

open Strconv

/-! ## Section 1: Event names -/

/-- The argument `t interface{}` of the lookups, by its dynamic type: a
    `string`, a `proto.Message` with the name `proto.MessageName` gives
    it, or a value of another type with the name `%T` prints for it. -/
inductive EventName where
  | string (s : String)
  | message (messageName : String)
  | other (typeName : String)
  deriving DecidableEq, Repr

/-! ## Section 2: The lookups -/

/-- `getEventName(t)`. -/
def getEventName : EventName → Except Error String
  | .string v => .ok v
  | .message messageName => .ok messageName
  | .other typeName => .error (.new ("unsupported type " ++ typeName))

/-- `EventFromEvents(items, t)`: the first event whose type is the name
    of `t`. -/
def EventFromEvents (items : List Event) (t : EventName) : Except Error Event :=
  match getEventName t with
  | .error err => .error (.errorf "failed to get event name: " err)
  | .ok name =>
    match items.find? (fun item => item.type == name) with
    | some item => .ok item
    | none => .error (.new "event not found")

/-- `AttributeValueFromEvent(item, key)`: the value of the first attribute
    of `key`. -/
def AttributeValueFromEvent (item : Event) (key : String) : Except Error String :=
  match item.Attributes.find? (fun attr => attr.Key == key) with
  | some attr => .ok attr.Value
  | none => .error (.new "attribute not found")

/-- `AttributeValueFromEvents(items, t, key)`. -/
def AttributeValueFromEvents (items : List Event) (t : EventName) (key : String) :
    Except Error String :=
  match EventFromEvents items t with
  | .error err => .error (.errorf "failed to get event from events: " err)
  | .ok event =>
    match AttributeValueFromEvent event key with
    | .error err => .error (.errorf "failed to get attribute from event: " err)
    | .ok value => .ok value

/-- The rune `"`. -/
def quoteRune : Char := Char.ofNat 34

/-- `strings.Trim(s, cutset)`: `s` without the leading and trailing runes
    that occur in `cutset`. -/
def stringsTrim (s cutset : String) : String :=
  ⟨((s.toList.dropWhile cutset.toList.contains).reverse.dropWhile cutset.toList.contains).reverse⟩

/-- `IDFromEvents(items, t)`: the "id" attribute of the first event of
    type `t`, without its quotes, as a `uint64`. -/
def IDFromEvents (items : List Event) (t : EventName) : Except Error Nat :=
  match AttributeValueFromEvents items t "id" with
  | .error err => .error (.errorf "failed to get id from events: " err)
  | .ok value =>
    match ParseUint (stringsTrim value ⟨[quoteRune]⟩) 64 with
    | .error err => .error (.errorf "failed to parse id from value: " err.toError)
    | .ok id => .ok id

/-! ## Section 3: First matches -/

theorem find?_append_of_forall {α : Type} {p : α → Bool} {pre : List α}
    (h : ∀ x ∈ pre, p x = false) (l : List α) : (pre ++ l).find? p = l.find? p := by
  rw [List.find?_append, List.find?_eq_none.mpr (fun x hx => by simp [h x hx]), Option.none_or]

/-- The first event of the name of `t` is the one `EventFromEvents` finds. -/
theorem EventFromEvents_first {t : EventName} {name : String} (hname : getEventName t = .ok name)
    {pre : List Event} (hpre : ∀ e ∈ pre, e.type ≠ name) (attrs : List EventAttribute)
    (post : List Event) :
    EventFromEvents (pre ++ ⟨name, attrs⟩ :: post) t = .ok ⟨name, attrs⟩ := by
  have hfind := find?_append_of_forall (p := fun item : Event => item.type == name)
    (fun e (he : e ∈ pre) => by simp [hpre e he]) (⟨name, attrs⟩ :: post)
  simp [EventFromEvents, hname, hfind]

/-- The first attribute of `key` is the one `AttributeValueFromEvent` reads. -/
theorem AttributeValueFromEvent_first (type key value : String) {before : List EventAttribute}
    (hbefore : ∀ a ∈ before, a.Key ≠ key) (after : List EventAttribute) :
    AttributeValueFromEvent ⟨type, before ++ ⟨key, value⟩ :: after⟩ key = .ok value := by
  have hfind := find?_append_of_forall (p := fun a : EventAttribute => a.Key == key)
    (fun a (ha : a ∈ before) => by simp [hbefore a ha]) (⟨key, value⟩ :: after)
  simp [AttributeValueFromEvent, hfind]

/-- An event without an attribute of `key`. -/
theorem AttributeValueFromEvent_none (item : Event) {key : String}
    (h : ∀ a ∈ item.Attributes, a.Key ≠ key) :
    AttributeValueFromEvent item key = .error (.new "attribute not found") := by
  have hnone : item.Attributes.find? (fun attr => attr.Key == key) = none :=
    List.find?_eq_none.mpr (fun a ha => by simp [h a ha])
  simp only [AttributeValueFromEvent, hnone]

/-- An event `EventFromEvents` finds is the first of the name of `t`. -/
theorem EventFromEvents_eq_ok {items : List Event} {t : EventName} {ev : Event}
    (h : EventFromEvents items t = .ok ev) : ∃ name pre post, getEventName t = .ok name ∧
      ev.type = name ∧ (∀ e ∈ pre, e.type ≠ name) ∧ items = pre ++ ev :: post := by
  unfold EventFromEvents at h
  rcases hname : getEventName t with err | name
  · rw [hname] at h; cases h
  rw [hname] at h
  dsimp only at h
  rcases hfind : items.find? (fun item => item.type == name) with _ | item
  · rw [hfind] at h; cases h
  rw [hfind] at h
  cases h
  obtain ⟨htype, pre, post, hitems, hpre⟩ := List.find?_eq_some.mp hfind
  exact ⟨name, pre, post, rfl, by simpa using htype, fun e he => by simpa using hpre e he, hitems⟩

/-- A value `AttributeValueFromEvent` reads is that of the first
    attribute of `key`. -/
theorem AttributeValueFromEvent_eq_ok {item : Event} {key value : String}
    (h : AttributeValueFromEvent item key = .ok value) : ∃ before after,
      (∀ a ∈ before, a.Key ≠ key) ∧ item.Attributes = before ++ ⟨key, value⟩ :: after := by
  unfold AttributeValueFromEvent at h
  rcases hfind : item.Attributes.find? (fun attr => attr.Key == key) with _ | ⟨k, v⟩
  · rw [hfind] at h; cases h
  rw [hfind] at h
  cases h
  obtain ⟨hkey, before, after, hattrs, hbefore⟩ := List.find?_eq_some.mp hfind
  obtain rfl : k = key := by simpa using hkey
  exact ⟨before, after, fun a ha => by simpa using hbefore a ha, hattrs⟩

/-- A value `AttributeValueFromEvents` reads is that of the first
    attribute of `key` in the first event of the name of `t`. -/
theorem AttributeValueFromEvents_eq_ok {items : List Event} {t : EventName} {key value : String}
    (h : AttributeValueFromEvents items t key = .ok value) :
    ∃ name pre before after post, getEventName t = .ok name ∧ (∀ e ∈ pre, e.type ≠ name) ∧
      (∀ a ∈ before, a.Key ≠ key) ∧ items = pre ++ ⟨name, before ++ ⟨key, value⟩ :: after⟩ :: post := by
  unfold AttributeValueFromEvents at h
  rcases hev : EventFromEvents items t with err | ⟨type, attrs⟩
  · rw [hev] at h; cases h
  rw [hev] at h
  dsimp only at h
  rcases hv : AttributeValueFromEvent ⟨type, attrs⟩ key with err | v
  · rw [hv] at h; cases h
  rw [hv] at h
  cases h
  obtain ⟨name, pre, post, hname, rfl, hpre, hitems⟩ := EventFromEvents_eq_ok hev
  obtain ⟨before, after, hbefore, rfl⟩ := AttributeValueFromEvent_eq_ok hv
  exact ⟨_, pre, before, after, post, hname, hpre, hbefore, hitems⟩

/-! ## Section 4: Trimming the quotes -/

theorem contains_quote (c : Char) : [quoteRune].contains c = (c == quoteRune) := by
  cases h : c == quoteRune <;> simp [List.contains, List.elem, h]

/-- Quotes around a string without quotes trim away. -/
theorem stringsTrim_quoted (m k : Nat) {ds : List Char} (hds : ∀ c ∈ ds, c ≠ quoteRune) :
    stringsTrim ⟨List.replicate m quoteRune ++ ds ++ List.replicate k quoteRune⟩ ⟨[quoteRune]⟩ = ⟨ds⟩ := by
  have hquote : [quoteRune].contains quoteRune = true := by rw [contains_quote, beq_self_eq_true]
  have hq : ∀ {n}, ∀ c ∈ List.replicate n quoteRune, [quoteRune].contains c = true :=
    fun c hc => List.eq_of_mem_replicate hc ▸ hquote
  have hds' : ∀ c ∈ ds, [quoteRune].contains c = false := fun c hc => by
    rw [contains_quote, beq_eq_false_iff_ne]
    exact hds c hc
  simp only [stringsTrim, String.toList, List.append_assoc, List.dropWhile_append_of_pos hq]
  cases ds with
  | nil => rw [List.nil_append, List.dropWhile_replicate, if_pos hquote]; rfl
  | cons d ds =>
    rw [List.dropWhile_append, dropWhile_of_forall hds', List.isEmpty_cons, if_neg Bool.false_ne_true,
      List.reverse_append, List.reverse_replicate, List.dropWhile_append_of_pos hq,
      dropWhile_of_forall (fun c hc => hds' c (List.mem_reverse.mp hc)), List.reverse_reverse]

theorem takeWhile_quote (l : List Char) :
    l.takeWhile [quoteRune].contains = List.replicate (l.takeWhile [quoteRune].contains).length quoteRune :=
  List.eq_replicate_iff.mpr ⟨rfl, fun c hc => by simpa [contains_quote] using List.mem_takeWhile_imp hc⟩

/-- A string is its quotes, what `strings.Trim` leaves of it, and its
    quotes again. -/
theorem eq_quoted_stringsTrim (s : String) : ∃ m k, s =
    ⟨List.replicate m quoteRune ++ (stringsTrim s ⟨[quoteRune]⟩).toList ++ List.replicate k quoteRune⟩ := by
  obtain ⟨l⟩ := s
  have hfront := List.takeWhile_append_dropWhile [quoteRune].contains l
  have hback := List.takeWhile_append_dropWhile [quoteRune].contains (l.dropWhile [quoteRune].contains).reverse
  rw [takeWhile_quote] at hfront hback
  refine ⟨(l.takeWhile [quoteRune].contains).length,
    ((l.dropWhile [quoteRune].contains).reverse.takeWhile [quoteRune].contains).length, congrArg String.mk ?_⟩
  conv_lhs => rw [← hfront, ← List.reverse_reverse (l.dropWhile _), ← hback]
  simp only [List.reverse_append, List.reverse_replicate, List.append_assoc, stringsTrim, String.toList]

/-! ## Section 5: Reading the id -/

/-- The events before the first of the name of `t`, and all after it, do
    not change what `IDFromEvents` returns. -/
theorem IDFromEvents_of_first {t : EventName} {name : String} (hname : getEventName t = .ok name)
    {pre : List Event} (hpre : ∀ e ∈ pre, e.type ≠ name) (attrs : List EventAttribute)
    (post : List Event) :
    IDFromEvents (pre ++ ⟨name, attrs⟩ :: post) t =
      match AttributeValueFromEvent ⟨name, attrs⟩ "id" with
      | .error err => .error (.errorf "failed to get id from events: "
          (.errorf "failed to get attribute from event: " err))
      | .ok value =>
        match ParseUint (stringsTrim value ⟨[quoteRune]⟩) 64 with
        | .error err => .error (.errorf "failed to parse id from value: " err.toError)
        | .ok id => .ok id := by
  simp only [IDFromEvents, AttributeValueFromEvents, EventFromEvents_first hname hpre attrs post]
  cases AttributeValueFromEvent ⟨name, attrs⟩ "id" <;> rfl

/-- **The id the chain writes is read back.** When the first event of the
    name of `t` carries, as its first "id" attribute, the decimal digits of
    `id` between any number of quotes, `IDFromEvents` returns `id` if it
    fits in `uint64`, and the range error of `ParseUint` otherwise. -/
theorem IDFromEvents_emitted {t : EventName} {name : String} (hname : getEventName t = .ok name)
    {pre : List Event} (hpre : ∀ e ∈ pre, e.type ≠ name) {before : List EventAttribute}
    (hbefore : ∀ a ∈ before, a.Key ≠ "id") (m k id : Nat) (after : List EventAttribute)
    (post : List Event) :
    IDFromEvents (pre ++ ⟨name, before ++ ⟨"id",
        ⟨List.replicate m quoteRune ++ (toString id).toList ++ List.replicate k quoteRune⟩⟩ :: after⟩ :: post) t =
      if id < 2 ^ 64 then .ok id
      else .error (.errorf "failed to parse id from value: "
        (NumError.toError ⟨"ParseUint", toString id, ErrRange⟩)) := by
  have hquote : quoteRune.isDigit = false := by decide
  have htrim := stringsTrim_quoted m k
    (fun c (hc : c ∈ Nat.toDigits 10 id) hq => by simpa [hq, hquote] using (toDigits_spec id).2.1 c hc)
  rw [IDFromEvents_of_first hname hpre, AttributeValueFromEvent_first _ _ _ hbefore]
  simp only [show (toString id).toList = Nat.toDigits 10 id from rfl, htrim,
    ParseUint_toDigits id (le_refl 64)]
  by_cases hid : id < 2 ^ 64
  · rw [if_neg (by omega), if_pos hid]
  · rw [if_pos (by omega), if_neg hid]
    rfl

/-- The event a session's start leaves before the session's own. -/
def messageEvent : Event := ⟨"message", [⟨"action", "/v3.MsgStartSessionRequest"⟩]⟩

/-- The events of a transaction that started session 42: the id is
    written as JSON, between quotes. -/
def sessionEvents : List Event :=
  [messageEvent, ⟨"v3.EventCreateSession", [⟨"acc_address", "acc1"⟩,
    ⟨"id", ⟨[quoteRune, '4', '2', quoteRune]⟩⟩, ⟨"node_address", "node1"⟩]⟩]

theorem IDFromEvents_emitted_session :
    IDFromEvents sessionEvents (.message "v3.EventCreateSession") = .ok 42 := by
  have h := IDFromEvents_emitted (t := .message "v3.EventCreateSession") rfl
    (fun e (he : e ∈ [messageEvent]) => by simp only [List.mem_singleton] at he; subst he; decide)
    (fun a (ha : a ∈ [⟨"acc_address", "acc1"⟩]) => by simp only [List.mem_singleton] at ha; subst ha; decide)
    1 1 42 [⟨"node_address", "node1"⟩] []
  rw [if_pos (by decide)] at h
  exact h

/-- **Only the first event of the type is read.** What `IDFromEvents`
    returns is what it returns on that event alone: the events after it,
    with or without an id, are never read. So when that event has no "id"
    attribute, the call fails, whatever follows. -/
theorem IDFromEvents_first_event {t : EventName} {name : String} (hname : getEventName t = .ok name)
    {pre : List Event} (hpre : ∀ e ∈ pre, e.type ≠ name) (attrs : List EventAttribute)
    (post : List Event) :
    IDFromEvents (pre ++ ⟨name, attrs⟩ :: post) t = IDFromEvents [⟨name, attrs⟩] t ∧
      ((∀ a ∈ attrs, a.Key ≠ "id") → IDFromEvents (pre ++ ⟨name, attrs⟩ :: post) t =
        .error (.errorf "failed to get id from events: "
          (.errorf "failed to get attribute from event: " (.new "attribute not found")))) := by
  have hnil : ∀ e ∈ ([] : List Event), e.type ≠ name := fun e he => absurd he (List.not_mem_nil e)
  refine ⟨(IDFromEvents_of_first hname hpre attrs post).trans
    (IDFromEvents_of_first hname hnil attrs []).symm, fun hnone => ?_⟩
  rw [IDFromEvents_of_first hname hpre, AttributeValueFromEvent_none ⟨name, attrs⟩ hnone]

/-- Two sessions started in one transaction, the first event without an
    id: the call fails, though the second carries one. -/
theorem IDFromEvents_first_event_twoSessions :
    IDFromEvents [⟨"v3.EventCreateSession", [⟨"acc_address", "acc1"⟩]⟩,
      ⟨"v3.EventCreateSession", [⟨"id", "7"⟩]⟩] (.message "v3.EventCreateSession") =
      .error (.errorf "failed to get id from events: "
        (.errorf "failed to get attribute from event: " (.new "attribute not found"))) :=
  (IDFromEvents_first_event (t := .message "v3.EventCreateSession") rfl
    (fun e (he : e ∈ ([] : List Event)) => absurd he (List.not_mem_nil e)) [⟨"acc_address", "acc1"⟩]
    [⟨"v3.EventCreateSession", [⟨"id", "7"⟩]⟩]).2 (by decide)

/-- **What `IDFromEvents` accepts.** An id it returns stands in the first
    event of the name of `t`, as its first "id" attribute, whose value is
    a non-empty string of decimal digits of that value (leading zeros
    allowed) between quotes; and the id fits in `uint64`. -/
theorem IDFromEvents_sound {items : List Event} {t : EventName} {id : Nat}
    (h : IDFromEvents items t = .ok id) :
    ∃ name pre before after post m k ds, getEventName t = .ok name ∧ (∀ e ∈ pre, e.type ≠ name) ∧
      (∀ a ∈ before, a.Key ≠ "id") ∧
      items = pre ++ ⟨name, before ++ ⟨"id",
        ⟨List.replicate m quoteRune ++ ds ++ List.replicate k quoteRune⟩⟩ :: after⟩ :: post ∧
      ds ≠ [] ∧ (∀ c ∈ ds, c.isDigit = true) ∧ digitsValue 0 ds = id ∧ id < 2 ^ 64 := by
  unfold IDFromEvents at h
  rcases hv : AttributeValueFromEvents items t "id" with err | value
  · rw [hv] at h; cases h
  rw [hv] at h
  dsimp only at h
  rcases hp : ParseUint (stringsTrim value ⟨[quoteRune]⟩) 64 with err | n
  · rw [hp] at h; cases h
  rw [hp] at h
  cases h
  obtain ⟨name, pre, before, after, post, hname, hpre, hbefore, hitems⟩ := AttributeValueFromEvents_eq_ok hv
  obtain ⟨m, k, hvalue⟩ := eq_quoted_stringsTrim value
  obtain ⟨hne, hdig, hval, hlt⟩ := ParseUint_eq_ok (le_refl 64) hp
  exact ⟨name, pre, before, after, post, m, k, _, hname, hpre, hbefore, hvalue ▸ hitems,
    hne, hdig, hval, hlt⟩

theorem IDFromEvents_sound_session :
    ∃ name pre before after post m k ds,
      getEventName (.message "v3.EventCreateSession") = .ok name ∧ (∀ e ∈ pre, e.type ≠ name) ∧
      (∀ a ∈ before, a.Key ≠ "id") ∧
      sessionEvents = pre ++ ⟨name, before ++ ⟨"id",
        ⟨List.replicate m quoteRune ++ ds ++ List.replicate k quoteRune⟩⟩ :: after⟩ :: post ∧
      ds ≠ [] ∧ (∀ c ∈ ds, c.isDigit = true) ∧ digitsValue 0 ds = 42 ∧ 42 < 2 ^ 64 :=
  IDFromEvents_sound rfl

end Qubetics.Events
