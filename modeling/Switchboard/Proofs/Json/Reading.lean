import Mathlib.Data.List.Induction
import Mathlib.Data.List.TakeWhile
import Switchboard.Json.Reader
import Switchboard.Trace
import Switchboard.Value.Literal

/-!
# What is read from JSON

A value of JSON is made of nothing but the scalars of the format, lists, and maps from texts. Its whole
numbers have no more digits than the limit, and its lists and maps stand in one another no deeper than the
reader goes. What is read from a text is of this kind (`Json.isJson_of_read`), and a value of this kind can
be written into a message (`Value.obstacle?_of_isJson`).
-/

namespace Switchboard

/-- Whether a scalar is one of JSON. -/
def Scalar.IsJson : Scalar → Prop
  | .int number => (Scalar.int number).isTooLong = false
  | .null | .bool _ | .float _ | .text _ | .halved _ => True
  | .date _ | .moment _ | .octets _ => False

namespace Scalar

variable {room : Nat} {content : Scalar}

/-- A scalar of JSON is one part of a message. -/
theorem obstacle?_of_isJson (json : content.IsJson) : content.obstacle? (room + 1) = none := by
  cases content with
  | int number =>
    have short : (Scalar.int number).isTooLong = false := json
    simp [obstacle?, depth, short]
  | date | moment | octets => exact json.elim
  | _ => simp [obstacle?, depth, isTooLong]

/-- A key of JSON is one part of a message. -/
theorem obstacle?_of_text (isText : content.kind = .text) : content.obstacle? (room + 1) = none := by
  cases content with
  | text | halved => simp [obstacle?, depth, isTooLong]
  | _ => simp [kind] at isText

end Scalar

namespace Value

mutual

/-- Whether a value is one of JSON, in which so many lists and maps stand in one another at most. -/
def IsJson (room : Nat) : Value → Prop
  | .scalar content => content.IsJson
  | .list items => 0 < room ∧ AreJson (room - 1) items
  | .map fields => 0 < room ∧ FieldsAreJson (room - 1) fields
  | .pair _ _ | .set _ | .again _ => False

/-- Whether items are of JSON and nested no deeper than there is room. -/
def AreJson (room : Nat) : List Value → Prop
  | [] => True
  | item :: rest => item.IsJson room ∧ AreJson room rest

/-- Whether fields have texts for names and are nested no deeper than there is room. -/
def FieldsAreJson (room : Nat) : List (Scalar × Value) → Prop
  | [] => True
  | (key, item) :: rest => (key.kind = .text ∧ item.IsJson room) ∧ FieldsAreJson room rest

end

mutual

/-- A value of JSON can be written into a message that has room for one part more. -/
theorem obstacle?_of_isJson {room depth : Nat} {value : Value} (json : value.IsJson room)
    (shallow : room < depth) : value.obstacle? depth = none := by
  match value, room, depth, json with
  | .scalar content, _, _ + 1, json => exact Scalar.obstacle?_of_isJson json
  | .list items, inner + 1, outer + 1, json =>
    exact itemObstacle?_of_areJson json.2 (Nat.lt_of_succ_lt_succ shallow)
  | .map fields, inner + 1, outer + 1, json =>
    exact entryObstacle?_of_fieldsAreJson json.2 (Nat.lt_of_succ_lt_succ shallow)

/-- No obstacle is in items of JSON that are not too deep. -/
theorem itemObstacle?_of_areJson {room depth : Nat} {items : List Value} (json : AreJson room items)
    (shallow : room < depth) : itemObstacle? depth items = none := by
  match items, json with
  | [], _ => rfl
  | item :: rest, json =>
    rw [itemObstacle?, obstacle?_of_isJson json.1 shallow, itemObstacle?_of_areJson json.2 shallow]
    rfl

/-- No obstacle is in fields of JSON that are not too deep. -/
theorem entryObstacle?_of_fieldsAreJson {room depth : Nat} {fields : List (Scalar × Value)}
    (json : FieldsAreJson room fields) (shallow : room < depth) :
    entryObstacle? depth fields = none := by
  match fields, depth, json with
  | [], _, _ => rfl
  | (key, item) :: rest, _ + 1, json =>
    rw [entryObstacle?, Scalar.obstacle?_of_text json.1.1, obstacle?_of_isJson json.1.2 shallow,
      entryObstacle?_of_fieldsAreJson json.2 shallow]
    rfl

end

end Value

/-- Code points make a text. -/
theorem Scalar.kind_ofPoints (points : List Nat) : (Scalar.ofPoints points).kind = .text := by
  unfold ofPoints
  split <;> rfl

/-- A text is one of JSON, also with halves of pairs in it. -/
theorem Scalar.isJson_ofPoints (points : List Nat) : (Scalar.ofPoints points).IsJson := by
  unfold ofPoints
  split <;> trivial

/-- Fields of JSON stay so when another one takes its place among them. -/
theorem Value.fieldsAreJson_put {room : Nat} {key : Scalar} {item : Value}
    {fields : List (Scalar × Value)} (isText : key.kind = .text) (json : item.IsJson room)
    (areJson : FieldsAreJson room fields) : FieldsAreJson room (Entries.put key item fields) := by
  induction fields with
  | nil => exact ⟨⟨isText, json⟩, trivial⟩
  | cons field rest ih =>
    unfold Entries.put
    split
    · exact ⟨⟨areJson.1.1, json⟩, areJson.2⟩
    · exact ⟨areJson.1, ih areJson.2⟩

/-- Digits write a number with no more digits than they are. -/
theorem Numeral.valueOf_lt {digits : List Char} (plain : ∀ c ∈ digits, isPlainDigit c = true) :
    valueOf 10 digits < Nat.pow 10 digits.length := by
  induction digits using List.reverseRecOn with
  | nil => decide
  | append_singleton digits last ih =>
    have isLast : isPlainDigit last = true := plain last (by simp)
    have low : last.toNat - '0'.toNat < 10 := by
      have highest : last ≤ '9' := by simpa [isPlainDigit] using (Bool.and_eq_true_iff.mp isLast).2
      have bound : last.toNat ≤ '9'.toNat := highest
      have zero : '0'.toNat = 48 := rfl
      have nine : '9'.toNat = 57 := rfl
      omega
    have shorter := ih fun c isDigit => plain c (List.mem_append_left _ isDigit)
    simp only [valueOf, List.foldl_append, List.foldl_cons, List.foldl_nil, isLast, if_true,
      List.length_append, List.length_singleton, Nat.pow_eq, Nat.pow_succ] at shorter ⊢
    omega

/-- What few digits write is not too long. -/
theorem Numeral.isTooLong_of_readDigits {negative : Bool} {digits : List Char} {number : Int}
    (plain : ∀ c ∈ digits, isPlainDigit c = true) (gone : readDigits negative digits = .ok number) :
    (Scalar.int number).isTooLong = false := by
  unfold readDigits at gone
  split at gone
  next => contradiction
  next few =>
    have size : number.natAbs = valueOf 10 digits := by
      obtain rfl := Except.ok.inj gone
      cases negative <;> simp
    have short : number.natAbs < 10 ^ digitLimit :=
      calc number.natAbs = valueOf 10 digits := size
        _ < 10 ^ digits.length := valueOf_lt plain
        _ ≤ 10 ^ digitLimit := Nat.pow_le_pow_right (by decide) (Nat.not_lt.mp few)
    have fits := Nat.not_le_of_gt short
    simp only [Scalar.isTooLong, Nat.pow_eq, fits, decide_false]

namespace Json

/-- The whole part of a number is made of digits. -/
theorem isPlainDigit_of_readWhole? {characters whole rest : List Char}
    (found : readWhole? characters = some (whole, rest)) :
    ∀ c ∈ whole, Numeral.isPlainDigit c = true := by
  unfold readWhole? at found
  split at found
  next => contradiction
  next first others =>
    split at found
    next =>
      obtain ⟨rfl, -⟩ := Prod.mk.inj (Option.some.inj found)
      intro c isZero
      obtain rfl := List.mem_singleton.mp isZero
      decide
    next =>
      split at found
      next isFirst =>
        obtain ⟨rfl, -⟩ := Prod.mk.inj (Option.some.inj found)
        intro c isDigit
        rcases List.mem_cons.mp isDigit with rfl | later
        · exact isFirst
        · exact List.mem_takeWhile_imp later
      next => contradiction

/-- A number is one of JSON. -/
theorem isJson_of_readNumber {room : Nat} {characters rest : List Char} {value : Value}
    (gone : readNumber characters = .ok (value, rest)) : value.IsJson room := by
  unfold readNumber at gone
  split at gone
  split at gone
  next => contradiction
  next whole after found =>
    split at gone
    split at gone
    split at gone
    next =>
      split at gone
      next number digits =>
        obtain ⟨rfl, -⟩ := Prod.mk.inj (Except.ok.inj gone)
        exact Numeral.isTooLong_of_readDigits (isPlainDigit_of_readWhole? found) digits
      next => contradiction
    next =>
      obtain ⟨rfl, -⟩ := Prod.mk.inj (Except.ok.inj gone)
      trivial

/-- A word is one of JSON. -/
theorem isJson_of_readWord? {room : Nat} {characters rest : List Char} {value : Value}
    (found : readWord? characters = some (value, rest)) : value.IsJson room := by
  have words : ∀ entry ∈ wordValues, entry.2.IsJson room := by
    simp [wordValues, Value.IsJson, Scalar.IsJson]
  obtain ⟨entry, isWord, same⟩ := Option.map_eq_some_iff.mp found
  obtain ⟨rfl, -⟩ := Prod.mk.inj same
  exact words entry (List.mem_of_find?_eq_some isWord)

/-- What is made of something read was read. -/
theorem exists_of_map_eq_ok {Read : Type} {make : Read → Value} {outcome : Except Fault (Read × List Char)}
    {value : Value} {rest : List Char}
    (gone : outcome.map (fun read => (make read.1, read.2)) = .ok (value, rest)) :
    ∃ read, outcome = .ok read ∧ make read.1 = value ∧ read.2 = rest := by
  cases outcome with
  | error fault => contradiction
  | ok read =>
    obtain ⟨made, left⟩ := Prod.mk.inj (Except.ok.inj gone)
    exact ⟨read, rfl, made, left⟩

/-- With some fuel, what is read are values of JSON, be they items or fields. -/
structure ReadsJson (fuel : Nat) : Prop where
  value : ∀ {room characters value rest}, readValue room fuel characters = .ok (value, rest) →
    value.IsJson room
  items : ∀ {room characters items rest}, readItems room fuel characters = .ok (items, rest) →
    Value.AreJson room items
  fields : ∀ {room fields characters read rest}, Value.FieldsAreJson room fields →
    readFields room fuel fields characters = .ok (read, rest) → Value.FieldsAreJson room read

namespace ReadsJson

variable {fuel room : Nat} {characters rest : List Char}

/-- A value read by one step more is one of JSON. -/
theorem value_succ (reads : ReadsJson fuel) {value : Value}
    (gone : readValue room (fuel + 1) characters = .ok (value, rest)) : value.IsJson room := by
  unfold readValue at gone
  split at gone
  next => contradiction
  next => contradiction
  next inner after =>
    split at gone
    next =>
      obtain ⟨rfl, -⟩ := Prod.mk.inj (Except.ok.inj gone)
      exact ⟨Nat.succ_pos _, trivial⟩
    next =>
      obtain ⟨⟨fields, following⟩, found, rfl, -⟩ := exists_of_map_eq_ok gone
      exact ⟨Nat.succ_pos _, reads.fields (by trivial) found⟩
  next inner after =>
    split at gone
    next =>
      obtain ⟨rfl, -⟩ := Prod.mk.inj (Except.ok.inj gone)
      exact ⟨Nat.succ_pos _, trivial⟩
    next =>
      obtain ⟨⟨items, following⟩, found, rfl, -⟩ := exists_of_map_eq_ok gone
      exact ⟨Nat.succ_pos _, reads.items found⟩
  next =>
    split at gone
    next text following found =>
      obtain ⟨rfl, -⟩ := Prod.mk.inj (Except.ok.inj gone)
      exact Scalar.isJson_ofPoints text
    next => contradiction
  next =>
    split at gone
    next word found =>
      obtain rfl := Except.ok.inj gone
      exact isJson_of_readWord? found
    next => exact isJson_of_readNumber gone

/-- Items read by one step more are values of JSON. -/
theorem items_succ (reads : ReadsJson fuel) {items : List Value}
    (gone : readItems room (fuel + 1) characters = .ok (items, rest)) : Value.AreJson room items := by
  unfold readItems at gone
  obtain ⟨⟨item, after⟩, first, gone⟩ := bind_eq_ok_iff.mp gone
  dsimp only at gone
  split at gone
  next =>
    obtain ⟨rfl, -⟩ := Prod.mk.inj (pure_eq_ok_iff.mp gone)
    exact ⟨reads.value first, trivial⟩
  next =>
    obtain ⟨⟨others, following⟩, found, gone⟩ := bind_eq_ok_iff.mp gone
    obtain ⟨rfl, -⟩ := Prod.mk.inj (pure_eq_ok_iff.mp gone)
    exact ⟨reads.value first, reads.items found⟩
  next => contradiction

/-- Fields read by one step more, after others of JSON, are fields of JSON. -/
theorem fields_succ (reads : ReadsJson fuel) {fields read : List (Scalar × Value)}
    (areJson : Value.FieldsAreJson room fields)
    (gone : readFields room (fuel + 1) fields characters = .ok (read, rest)) :
    Value.FieldsAreJson room read := by
  unfold readFields at gone
  split at gone
  next =>
    split at gone
    next => contradiction
    next key after found =>
      split at gone
      next =>
        obtain ⟨⟨item, following⟩, held, gone⟩ := bind_eq_ok_iff.mp gone
        have put := Value.fieldsAreJson_put (Scalar.kind_ofPoints key) (reads.value held) areJson
        dsimp only at gone
        split at gone
        next =>
          obtain ⟨rfl, -⟩ := Prod.mk.inj (pure_eq_ok_iff.mp gone)
          exact put
        next => exact reads.fields put gone
        next => contradiction
      next => contradiction
  next => contradiction

/-- Values of JSON are read with any fuel. -/
theorem ofFuel (fuel : Nat) : ReadsJson fuel := by
  induction fuel with
  | zero => constructor <;> simp [readValue, readItems, readFields]
  | succ fuel reads => exact ⟨reads.value_succ, reads.items_succ, reads.fields_succ⟩

end ReadsJson

/-- What is read from a text is a value of JSON. -/
theorem isJson_of_read {text : String} {value : Value} (gone : read text = .ok value) :
    value.IsJson depthLimit := by
  obtain ⟨⟨found, rest⟩, whole, ended⟩ := bind_eq_ok_iff.mp gone
  have json := (ReadsJson.ofFuel _).value whole
  cases blank : (skipSpace rest).isEmpty with
  | true =>
    obtain rfl : found = value := by simpa [blank] using ended
    exact json
  | false => simp [blank] at ended

end Json

end Switchboard
