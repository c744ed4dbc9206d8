import Switchboard.Account
import Switchboard.Trace

/-!
# Accounts that have an identity hash

An account has an identity hash exactly where it can be written: the number of its flags has no more digits
than the limit of the process, if there is one, and none of its texts holds a half of a pair
(`identityHash_eq_ok_iff`). The hash itself does not depend on the limit.
-/

namespace Switchboard

/-- No character of a text is a half of a pair. -/
theorem CodePoints.isHalf_of_mem_ofText {text : String} {point : CodePoint}
    (member : point ∈ CodePoints.ofText text) : Text.isHalf point = false := by
  obtain ⟨c, -, rfl⟩ := List.mem_map.mp member
  exact Text.isHalf_toNat c

namespace Text

/-- No halves are found exactly where there are none. -/
theorem firstHalves?_eq_none_iff {place : Nat} {text : CodePoints} :
    firstHalves? place text = none ↔ ∀ point ∈ text, isHalf point = false := by
  induction text generalizing place with
  | nil => simp [firstHalves?]
  | cons point rest ih =>
    cases half : isHalf point with
    | true => simp [firstHalves?, half]
    | false => simp [firstHalves?, half, ih]

/-- The bytes that a text without halves is written with. -/
def bytes (text : CodePoints) : List UInt8 :=
  text.flatMap fun point : CodePoint => String.utf8EncodeChar (charAt point)

/-- A text is written exactly where it holds no halves. -/
theorem encode_eq_ok_iff {text : CodePoints} {written : List UInt8} :
    encode text = .ok written ↔ (∀ point ∈ text, isHalf point = false) ∧ written = bytes text := by
  rw [← @firstHalves?_eq_none_iff 0]
  unfold encode
  cases firstHalves? 0 text with
  | some stretch => simp
  | none => simp [bytes, eq_comm]

end Text

namespace Account

/-- The texts among the fields of an account. -/
def texts (account : Account) : List CodePoints :=
  [account.packageName, account.handle.component.className, account.handle.id, account.labelText]

/-- Whether an account can be written, with a limit to the digits of a number or without one. -/
structure IsWritable (limit : Option Nat) (account : Account) : Prop where
  digits : ∀ digits ∈ limit, account.capabilities < Nat.pow 10 digits
  whole : ∀ text ∈ account.texts, ∀ point ∈ text, Text.isHalf point = false

/-- Where numbers of any length are written, only halves keep an account from being so. -/
theorem isWritable_none_iff {account : Account} :
    account.IsWritable none ↔
      ∀ text ∈ account.texts, ∀ point ∈ text, Text.isHalf point = false :=
  ⟨IsWritable.whole, fun whole => ⟨by simp, whole⟩⟩

/-- The account with fields that hold no halves. -/
def ofTexts (package className id : String) (label : Option String) (capabilities : Nat)
    (enabled : Bool) : Account where
  handle := ⟨⟨package, className⟩, id⟩
  label := label.map CodePoints.ofText
  capabilities := capabilities
  enabled := enabled

/-- A number below the limit has no more digits than that. -/
theorem ofTexts_isWritable {package className id : String} {label : Option String}
    {capabilities digits : Nat} {enabled : Bool} (few : capabilities < digits) :
    (ofTexts package className id label capabilities enabled).IsWritable (some digits) where
  digits := by
    rintro _ ⟨rfl⟩
    exact Nat.lt_trans few (Nat.lt_pow_self (by decide))
  whole := by
    have labelled : ∃ words : String,
        (label.map CodePoints.ofText).getD [] = CodePoints.ofText words :=
      ⟨label.getD "", by cases label <;> rfl⟩
    obtain ⟨words, same⟩ := labelled
    simp only [texts, ofTexts, packageName, labelText, same, List.forall_mem_cons]
    exact ⟨fun _ => CodePoints.isHalf_of_mem_ofText, fun _ => CodePoints.isHalf_of_mem_ofText,
      fun _ => CodePoints.isHalf_of_mem_ofText, fun _ => CodePoints.isHalf_of_mem_ofText, nofun⟩

/-- The identity hash that an account has if it has one. -/
def hash (account : Account) : Nat :=
  (Checksum.ofBytes (Text.bytes account.fieldsText)).toNat

/-- The text of the fields holds the halves that the texts among them hold. -/
theorem forall_fieldsText_iff {account : Account} :
    (∀ point ∈ account.fieldsText, Text.isHalf point = false) ↔
      ∀ text ∈ account.texts, ∀ point ∈ text, Text.isHalf point = false := by
  have mark : Text.isHalf separator = false := Text.isHalf_toNat _
  have label : (∀ point ∈ account.label.getD noLabel, Text.isHalf point = false) ↔
      ∀ point ∈ account.labelText, Text.isHalf point = false := by
    unfold labelText
    cases account.label with
    | none =>
      have plain : Text.isHalf (CodePoint.ofChar '\x01') = false := Text.isHalf_toNat _
      simp [noLabel, plain]
    | some text => rfl
  have flags : ∀ point ∈ CodePoints.ofText (toString account.capabilities),
      Text.isHalf point = false := fun _ => CodePoints.isHalf_of_mem_ofText
  have state : ∀ point ∈ CodePoints.ofText (if account.enabled then "1" else "0"),
      Text.isHalf point = false := fun _ => CodePoints.isHalf_of_mem_ofText
  have parts : account.fieldsText =
      account.packageName ++ separator :: (account.handle.component.className ++
        separator :: (account.handle.id ++ separator :: (account.label.getD noLabel ++
          separator :: (CodePoints.ofText (toString account.capabilities) ++
            separator :: CodePoints.ofText (if account.enabled then "1" else "0"))))) := by
    simp [fieldsText, List.intercalate, List.intersperse]
  simp only [parts, List.forall_mem_append, List.forall_mem_cons, mark, label, true_and, texts,
    List.not_mem_nil, false_implies, implies_true, and_true, iff_true_intro flags, iff_true_intro state]

/-- An account has an identity text exactly where its number is within the limit. -/
theorem identityText_eq_ok_iff {limit : Option Nat} {account : Account} {text : CodePoints} :
    account.identityText limit = .ok text ↔
      (∀ digits ∈ limit, account.capabilities < Nat.pow 10 digits) ∧ text = account.fieldsText := by
  unfold identityText
  cases limit with
  | none => simp [eq_comm]
  | some digits =>
    rcases Nat.lt_or_ge account.capabilities (Nat.pow 10 digits) with few | many
    · have passed : ¬Nat.pow 10 digits ≤ account.capabilities := Nat.not_le.mpr few
      simp [-Nat.pow_eq, Option.filter, passed, few, eq_comm]
    · have refused : ¬account.capabilities < Nat.pow 10 digits := Nat.not_lt.mpr many
      simp [-Nat.pow_eq, Option.filter, many, refused]

/-- An account has an identity hash exactly where it can be written. -/
theorem identityHash_eq_ok_iff {limit : Option Nat} {account : Account} {hash : Nat} :
    account.identityHash limit = .ok hash ↔ account.IsWritable limit ∧ hash = account.hash := by
  simp only [identityHash, bind_eq_ok_iff, identityText_eq_ok_iff, mapError_eq_ok_iff,
    Text.encode_eq_ok_iff, pure_eq_ok_iff]
  constructor
  · rintro ⟨_, ⟨digits, rfl⟩, _, ⟨whole, rfl⟩, rfl⟩
    exact ⟨⟨digits, forall_fieldsText_iff.mp whole⟩, rfl⟩
  · rintro ⟨writable, rfl⟩
    exact ⟨_, ⟨writable.digits, rfl⟩, _, ⟨forall_fieldsText_iff.mpr writable.whole, rfl⟩, rfl⟩

end Account

end Switchboard
