/-!
# Entries in order of arrival

A finite map kept as a list of pairs. Writing to a key that is present keeps its place and the form in which
it was first written; a new key goes to the end. Reading answers with the first entry of a key, and the
operations below never make a second one.
-/

namespace Switchboard

/-- Keys with their items, in the order in which the keys came. -/
abbrev Entries (Key Item : Type) := List (Key × Item)

namespace Entries

variable {Key Item : Type} [BEq Key]

/-- The item under a key, if there is one. -/
def get? (key : Key) : Entries Key Item → Option Item
  | [] => none
  | (other, item) :: rest => if other == key then some item else get? key rest

/-- Whether there is an item under a key. -/
def has (key : Key) (entries : Entries Key Item) : Bool :=
  (get? key entries).isSome

/-- Puts an item under a key, in the place of the old one or at the end. -/
def put (key : Key) (item : Item) : Entries Key Item → Entries Key Item
  | [] => [(key, item)]
  | (other, old) :: rest =>
    if other == key then (other, item) :: rest else (other, old) :: put key item rest

/-- Takes the item under a key away. -/
def erase (key : Key) (entries : Entries Key Item) : Entries Key Item :=
  entries.filter fun entry => !(entry.1 == key)

omit [BEq Key] in

/-- The keys, in order. -/
def keys (entries : Entries Key Item) : List Key :=
  entries.map Prod.fst

/-- The entries of a list in which a later pair replaces an earlier one of the same key. -/
def ofList (pairs : List (Key × Item)) : Entries Key Item :=
  pairs.foldl (fun entries pair => put pair.1 pair.2 entries) []

/-- Nothing is under any key of no entries. -/
@[simp] theorem get?_nil (key : Key) : get? key ([] : Entries Key Item) = none := rfl

/-- The entries in front are asked first. -/
theorem get?_append (key : Key) (front back : Entries Key Item) :
    get? key (front ++ back) = (get? key front <|> get? key back) := by
  induction front with
  | nil => rfl
  | cons entry rest ih => cases same : entry.1 == key <;> simp [get?, same, ih]

/-- What is found stands in an entry of that key. -/
theorem exists_mem_of_get? {key : Key} {item : Item} {entries : Entries Key Item}
    (found : get? key entries = some item) :
    ∃ other, (other, item) ∈ entries ∧ (other == key) = true := by
  induction entries with
  | nil => simp at found
  | cons entry rest ih =>
    cases same : entry.1 == key with
    | true =>
      obtain rfl : entry.2 = item := by simpa [get?, same] using found
      exact ⟨entry.1, List.mem_cons_self, same⟩
    | false =>
      obtain ⟨other, member, known⟩ := ih (by simpa [get?, same] using found)
      exact ⟨other, List.mem_cons_of_mem entry member, known⟩

/-- A key apart from all others has no item. -/
theorem get?_eq_none {key : Key} {entries : Entries Key Item}
    (apart : ∀ entry ∈ entries, (entry.1 == key) = false) : get? key entries = none := by
  cases found : get? key entries with
  | none => rfl
  | some item =>
    obtain ⟨other, member, same⟩ := exists_mem_of_get? found
    rw [apart (other, item) member] at same
    contradiction

/-- Nothing is left under a key that was taken away. -/
@[simp] theorem get?_erase_self (key : Key) (entries : Entries Key Item) :
    get? key (erase key entries) = none := by
  induction entries with
  | nil => rfl
  | cons entry rest ih =>
    cases same : entry.1 == key with
    | true => simpa [erase, same] using ih
    | false => simpa [erase, same, get?] using ih

/-- There is an item under a key where a key is the same. -/
theorem has_eq_true_iff {key : Key} {entries : Entries Key Item} :
    has key entries = true ↔ ∃ other ∈ keys entries, (other == key) = true := by
  induction entries with
  | nil => simp [has, keys]
  | cons entry rest ih =>
    cases same : entry.1 == key with
    | true => simp [has, get?, keys, same]
    | false => simpa [has, get?, keys, same] using ih

/-- A write leaves the keys, or adds one at the end. -/
theorem keys_put (key : Key) (item : Item) (entries : Entries Key Item) :
    keys (put key item entries) =
      if has key entries then keys entries else keys entries ++ [key] := by
  induction entries with
  | nil => rfl
  | cons entry rest ih =>
    cases same : entry.1 == key with
    | true => simp [put, has, get?, keys, same]
    | false =>
      have step : keys (put key item (entry :: rest)) = entry.1 :: keys (put key item rest) := by
        simp [put, keys, same]
      have present : has key (entry :: rest) = has key rest := by simp [has, get?, same]
      rw [step, ih, present]
      split <;> rfl

/-- A new key goes to the end. -/
theorem put_of_absent {key : Key} {entries : Entries Key Item} (absent : has key entries = false)
    (item : Item) : put key item entries = entries ++ [(key, item)] := by
  induction entries with
  | nil => rfl
  | cons entry rest ih =>
    cases same : entry.1 == key with
    | true => simp [has, get?, same] at absent
    | false => simp [put, same, ih (by simpa [has, get?, same] using absent)]

/-- The other keys stay. -/
theorem keys_erase (key : Key) (entries : Entries Key Item) :
    keys (erase key entries) = (keys entries).filter fun other => !(other == key) := by
  simp only [keys, erase, List.filter_map]
  rfl

/-- No two keys are the same. -/
def Distinct (entries : Entries Key Item) : Prop :=
  (keys entries).Pairwise fun first second => (first == second) = false

/-- No key comes twice by an item being put. -/
theorem Distinct.put {entries : Entries Key Item} (distinct : Distinct entries) (key : Key)
    (item : Item) : Distinct (put key item entries) := by
  unfold Distinct
  rw [keys_put]
  cases present : has key entries with
  | true => exact distinct
  | false =>
    refine List.pairwise_append.mpr ⟨distinct, List.pairwise_singleton .., ?_⟩
    intro other member last isLast
    obtain rfl := List.mem_singleton.mp isLast
    rw [← Bool.not_eq_true] at present ⊢
    exact fun same => present (has_eq_true_iff.mpr ⟨other, member, same⟩)

/-- No key comes twice by an item being taken away. -/
theorem Distinct.erase {entries : Entries Key Item} (distinct : Distinct entries) (key : Key) :
    Distinct (erase key entries) := by
  unfold Distinct
  rw [keys_erase]
  exact distinct.filter _

section Renamed

variable {Other Thing : Type} [BEq Other] {rename : Key → Other} {change : Item → Thing}
  (same : ∀ first second, (rename first == rename second) = (first == second))
include same

/-- Where the keys are renamed so that none become one, everything is found as before. -/
theorem get?_map (key : Key) (entries : Entries Key Item) :
    get? (rename key) (entries.map fun entry => (rename entry.1, change entry.2)) =
      (get? key entries).map change := by
  induction entries with
  | nil => rfl
  | cons entry rest ih =>
    cases found : entry.1 == key <;> simp [get?, same, found, ih]

/-- Keys that are renamed faithfully are found as before. -/
theorem has_map (key : Key) (entries : Entries Key Item) :
    has (rename key) (entries.map fun entry => (rename entry.1, change entry.2)) =
      has key entries := by
  simp [has, get?_map same]

/-- To put an item commutes with a faithful renaming of keys and any change of items. -/
theorem put_map (key : Key) (item : Item) (entries : Entries Key Item) :
    put (rename key) (change item) (entries.map fun entry => (rename entry.1, change entry.2)) =
      (put key item entries).map fun entry => (rename entry.1, change entry.2) := by
  induction entries with
  | nil => rfl
  | cons entry rest ih =>
    cases found : entry.1 == key <;> simp [put, same, found, ih]

end Renamed

section Items

variable {Thing : Type} (change : Item → Thing) (key : Key) (entries : Entries Key Item)

/-- Where only the items are changed, the changed one is found. -/
theorem get?_map_items : get? key (entries.map fun entry => (entry.1, change entry.2)) =
    (get? key entries).map change := by
  have same : ∀ first second : Key, (id first == id second) = (first == second) := fun _ _ => rfl
  exact get?_map same key entries

/-- To put an item commutes with a change of items. -/
theorem put_map_items (item : Item) :
    put key (change item) (entries.map fun entry => (entry.1, change entry.2)) =
      (put key item entries).map fun entry => (entry.1, change entry.2) := by
  have same : ∀ first second : Key, (id first == id second) = (first == second) := fun _ _ => rfl
  exact put_map same key item entries

end Items

variable [EquivBEq Key]

/-- What stands in the entries after a write stood there before, or was written under the key. -/
theorem mem_put {key : Key} {item : Item} {entries : Entries Key Item} {entry : Key × Item}
    (member : entry ∈ put key item entries) :
    entry ∈ entries ∨ (entry.1 == key) = true ∧ entry.2 = item := by
  induction entries with
  | nil =>
    obtain rfl : entry = (key, item) := by simpa [put] using member
    exact .inr ⟨BEq.rfl, rfl⟩
  | cons first rest ih =>
    cases same : first.1 == key with
    | true =>
      rcases List.mem_cons.mp (by simpa [put, same] using member) with rfl | later
      · exact .inr ⟨same, rfl⟩
      · exact .inl (List.mem_cons_of_mem first later)
    | false =>
      rcases List.mem_cons.mp (by simpa [put, same] using member) with rfl | later
      · exact .inl List.mem_cons_self
      · exact (ih later).imp_left (List.mem_cons_of_mem first)

/-- What was put under a key is found there. -/
@[simp] theorem get?_put_self (key : Key) (item : Item) (entries : Entries Key Item) :
    get? key (put key item entries) = some item := by
  induction entries with
  | nil => simp [put, get?]
  | cons entry rest ih =>
    cases same : entry.1 == key <;> simp [put, get?, same, ih]

/-- The later of two writes to a key decides. -/
theorem put_put (key : Key) (item other : Item) (entries : Entries Key Item) :
    put key other (put key item entries) = put key other entries := by
  induction entries with
  | nil => simp [put]
  | cons entry rest ih => cases same : entry.1 == key <;> simp [put, same, ih]

/-- What is under another key is not changed by an item being put. -/
theorem get?_put_of_ne {key other : Key} (different : (other == key) = false) (item : Item)
    (entries : Entries Key Item) : get? other (put key item entries) = get? other entries := by
  have reversed : (key == other) = false := by rw [BEq.comm]; exact different
  induction entries with
  | nil => simp [put, get?, reversed]
  | cons entry rest ih =>
    cases same : entry.1 == key with
    | true =>
      have skipped : (entry.1 == other) = false := by rw [BEq.congr_left same]; exact reversed
      simp [put, get?, same, skipped]
    | false => simp [put, get?, same, ih]

/-- What is under another key is not changed by an item being taken away. -/
theorem get?_erase_of_ne {key other : Key} (different : (other == key) = false)
    (entries : Entries Key Item) : get? other (erase key entries) = get? other entries := by
  have reversed : (key == other) = false := by rw [BEq.comm]; exact different
  induction entries with
  | nil => rfl
  | cons entry rest ih =>
    cases same : entry.1 == key with
    | true =>
      have skipped : (entry.1 == other) = false := by rw [BEq.congr_left same]; exact reversed
      have step : get? other (entry :: rest) = get? other rest := by simp [get?, skipped]
      rw [step, ← ih]
      simp [erase, same]
    | false =>
      cases found : entry.1 == other with
      | true => simp [erase, get?, same, found]
      | false => simpa [erase, same, get?, found] using ih

/-- Keys that are the same find the same item. -/
theorem get?_congr {key other : Key} (same : (key == other) = true) (entries : Entries Key Item) :
    get? key entries = get? other entries := by
  induction entries with
  | nil => rfl
  | cons entry rest ih => simp only [get?, BEq.congr_right same, ih]

/-- What is under a key after an item was put under some key. -/
theorem get?_put (key other : Key) (item : Item) (entries : Entries Key Item) :
    get? other (put key item entries) = if key == other then some item else get? other entries := by
  cases same : key == other with
  | true => rw [← get?_congr same, get?_put_self, if_pos rfl]
  | false =>
    rw [get?_put_of_ne (by rw [BEq.comm]; exact same), if_neg Bool.false_ne_true]

/-- What is under a key after the item under some key was taken away. -/
theorem get?_erase (key other : Key) (entries : Entries Key Item) :
    get? other (erase key entries) = if key == other then none else get? other entries := by
  cases same : key == other with
  | true => rw [← get?_congr same, get?_erase_self, if_pos rfl]
  | false =>
    rw [get?_erase_of_ne (by rw [BEq.comm]; exact same), if_neg Bool.false_ne_true]

end Entries

end Switchboard
