import Switchboard.Text.Case
import Switchboard.Text.Letter

/-!
# Small forms

The small form of a letter is a letter again, and its own small form, but for one: the capital I with
a dot becomes an i and a mark, which is no letter. So the small form of a text of letters is made of
letters exactly where this capital is not among them, and then it is its own
(`isAlphabetic_lower_iff`, `lower_lower`).

Of the plain letters only i and k are also the small forms of characters other than plain letters. A
word without them is the small form of a text exactly where the text spells it in plain letters of
either case (`lower_eq_iff`).
-/

namespace Switchboard.Text

/-- The spans of letters ascend. -/
theorem letterSpans_ascend : ascendFrom 0 letterSpans = true := by decide +kernel

namespace CaseRun

/-- Whether a run lists a code point. -/
def Lists (run : CaseRun) (point : Nat) : Prop :=
  run.first ≤ point ∧ point ≤ run.last ∧ (point - run.first) % run.step = 0

/-- The image of the last code point of a run. -/
def lastTarget (run : CaseRun) : Nat := run.target + (run.last - run.first)

/-- An image is that of a run which lists the code point. -/
theorem exists_run_of_image? {runs : List CaseRun} {point image : Nat}
    (listed : image? runs point = some image) :
    ∃ run ∈ runs, run.Lists point ∧ image = run.target + (point - run.first) := by
  induction runs with
  | nil => simp [image?] at listed
  | cons run rest ih =>
    unfold image? at listed
    split at listed
    · contradiction
    next above =>
      split at listed
      next here =>
        simp only [Bool.and_eq_true, decide_eq_true_eq] at here
        exact ⟨run, List.mem_cons_self, ⟨Nat.le_of_not_lt above, here⟩, (Option.some.inj listed).symm⟩
      · obtain ⟨run, member, found⟩ := ih listed
        exact ⟨run, List.mem_cons_of_mem _ member, found⟩

/-! What is checked of the runs, by comparisons of numbers that are computed at once. -/

/-- Whether all images of a run are letters, or nothing that it lists is one. -/
def keepsLetters (run : CaseRun) : Bool :=
  (letterSpans.any fun span => Nat.ble span.1 run.target && Nat.ble run.lastTarget span.2) ||
    letterSpans.all fun span => Nat.blt span.2 run.first || Nat.blt run.last span.1

/-- Whether all images of a run are characters. -/
def keepsCharacters (run : CaseRun) : Bool :=
  Nat.blt run.lastTarget 0xD800 || (Nat.blt 0xDFFF run.target && Nat.blt run.lastTarget 0x110000)

/-- Whether no image of a run is listed in another. Their places may overlap where the other lists every
second one, and the images are at the places between. -/
def misses (run other : CaseRun) : Bool :=
  Nat.blt run.lastTarget other.first || Nat.blt other.last run.target ||
    ((Nat.beq run.first run.last || Nat.beq run.step 2) && Nat.beq other.step 2 &&
      !Nat.beq (run.target % 2) (other.first % 2))

/-- Whether a run is that of the plain capitals, or has no plain letter but k among its images. -/
def sparesPlain (run : CaseRun) : Bool :=
  Nat.ble 0x80 run.target || (Nat.beq run.target 0x6B && Nat.beq run.lastTarget 0x6B) ||
    (Nat.beq run.first 0x41 && Nat.beq run.last 0x5A && Nat.beq run.target 0x61)

/-- Every run of small forms leads letters to letters. -/
theorem smallRuns_keepLetters : smallRuns.all keepsLetters = true := by decide +kernel

/-- Every run of small forms leads to characters. -/
theorem smallRuns_keepCharacters : smallRuns.all keepsCharacters = true := by decide +kernel

/-- The capital I with a dot, which no run lists, as a run of its own. -/
def dotted : CaseRun := ⟨0x0130, 0x0130, 1, 0x0069⟩

/-- No image of small forms is listed again, nor is it the capital I with a dot. -/
theorem smallRuns_miss : (smallRuns.all fun run => (dotted :: smallRuns).all run.misses) = true := by
  decide +kernel

/-- Of the plain letters only k is the image of others than the plain capitals. -/
theorem smallRuns_sparePlain : smallRuns.all sparesPlain = true := by decide +kernel

variable {run other : CaseRun} {point image : Nat}

/-- A run that is missed does not list an image. -/
theorem not_lists_of_misses (apart : run.misses other = true) (listed : run.Lists point) :
    ¬other.Lists (run.target + (point - run.first)) := by
  rintro ⟨otherFirst, otherLast, otherStep⟩
  obtain ⟨first, last, step⟩ := listed
  simp only [misses, lastTarget, Bool.or_eq_true, Bool.and_eq_true, Bool.not_eq_true', Nat.blt_eq,
    Nat.beq_eq, ← Bool.not_eq_true] at apart
  obtain (below | above) | ⟨⟨alone | second, otherSecond⟩, parity⟩ := apart
  · omega
  · omega
  · rw [otherSecond] at otherStep
    omega
  · rw [second] at step
    rw [otherSecond] at otherStep
    omega

/-- No run of small forms lists the image of another, nor is it the capital I with a dot. -/
theorem not_lists_image (listed : image? smallRuns point = some image)
    (member : other ∈ dotted :: smallRuns) : ¬other.Lists image := by
  obtain ⟨run, isRun, lists, rfl⟩ := exists_run_of_image? listed
  have apart := List.all_eq_true.mp (List.all_eq_true.mp smallRuns_miss run isRun) other member
  exact not_lists_of_misses apart lists

/-- The image of a capital has no small form but itself. -/
theorem image?_image (listed : image? smallRuns point = some image) :
    image? smallRuns image = none := by
  cases again : image? smallRuns image with
  | none => rfl
  | some twice =>
    obtain ⟨other, member, lists, -⟩ := exists_run_of_image? again
    exact absurd lists (not_lists_image listed (List.mem_cons_of_mem dotted member))

/-- No image is the capital I with a dot. -/
theorem image_ne_dotted (listed : image? smallRuns point = some image) : image ≠ 0x0130 := by
  rintro rfl
  exact not_lists_image listed List.mem_cons_self (by simp [Lists, dotted])

/-- The image of a capital is a letter, if the capital is one. -/
theorem covers_image (listed : image? smallRuns point = some image)
    (letter : covers letterSpans point = true) : covers letterSpans image = true := by
  obtain ⟨run, member, ⟨first, last, -⟩, rfl⟩ := exists_run_of_image? listed
  have keeps := List.all_eq_true.mp smallRuns_keepLetters run member
  simp only [keepsLetters, lastTarget, Bool.or_eq_true, List.any_eq_true, List.all_eq_true,
    Bool.and_eq_true, Nat.ble_eq, Nat.blt_eq] at keeps
  rcases keeps with ⟨span, isSpan, low, high⟩ | apart
  · exact covers_of_mem letterSpans_ascend isSpan (by omega) (by omega)
  · obtain ⟨span, isSpan, low, high⟩ := exists_span_of_covers letter
    have away := apart span isSpan
    omega

/-- All images are characters. -/
theorem isValidChar_image (listed : image? smallRuns point = some image) : image.isValidChar := by
  obtain ⟨run, member, ⟨first, last, -⟩, rfl⟩ := exists_run_of_image? listed
  have keeps := List.all_eq_true.mp smallRuns_keepCharacters run member
  simp only [keepsCharacters, lastTarget, Bool.or_eq_true, Bool.and_eq_true, Nat.blt_eq] at keeps
  unfold Nat.isValidChar
  omega

/-- An image is the code point of a character. -/
theorem toNat_image (listed : image? smallRuns point = some image) :
    (Char.ofNat image).toNat = image := by
  rw [Char.ofNat, dif_pos (isValidChar_image listed)]
  rfl

/-- Of the plain letters only k is the image of anything but the plain capital. -/
theorem plain_of_image (listed : image? smallRuns point = some image) (plain : image < 0x80)
    (other : image ≠ 0x6B) : 0x41 ≤ point ∧ point ≤ 0x5A ∧ image = point + 0x20 := by
  obtain ⟨run, member, ⟨first, last, -⟩, rfl⟩ := exists_run_of_image? listed
  have spares := List.all_eq_true.mp smallRuns_sparePlain run member
  simp only [sparesPlain, lastTarget, Bool.or_eq_true, Bool.and_eq_true, Nat.ble_eq,
    Nat.beq_eq] at spares
  omega

end CaseRun

/-- The capital I with a dot, the only letter whose small form is more than one character. -/
def dottedI : Char := Char.ofNat 0x0130

/-- The mark that remains of the dot. -/
def dotAbove : Char := Char.ofNat 0x0307

/-- The small form of the capital I with a dot is an i with a mark. -/
theorem smallOf_dottedI : smallOf dottedI = ['i', dotAbove] := by decide

/-- Whether a character is a letter that is its own small form wherever it stands. -/
structure IsSmallLetter (c : Char) : Prop where
  isLetter : isLetter c = true
  unlisted : CaseRun.image? smallRuns c.toNat = none
  notDotted : c ≠ dottedI

namespace IsSmallLetter

variable {c : Char}

/-- A small letter is its own small form. -/
theorem smallOf_eq (small : IsSmallLetter c) : smallOf c = [c] := by
  have notDotted : c.toNat ≠ 0x0130 := fun same => small.notDotted (Char.toNat_inj.mp same)
  simp [smallOf, notDotted, small.unlisted]

/-- The capital sigma has a small form of its own. -/
theorem notSigma (small : IsSmallLetter c) : c.toNat ≠ 0x03A3 := by
  intro same
  have listed : CaseRun.image? smallRuns 0x03A3 = some 0x03C3 := by decide +kernel
  simpa [same, listed] using small.unlisted

end IsSmallLetter

/-- The small form of every other letter is one letter, which is its own small form. -/
theorem smallOf_of_letter {c : Char} (letter : isLetter c = true) (notDotted : c ≠ dottedI) :
    ∃ small, smallOf c = [small] ∧ IsSmallLetter small := by
  have other : c.toNat ≠ 0x0130 := fun same => notDotted (Char.toNat_inj.mp same)
  cases listed : CaseRun.image? smallRuns c.toNat with
  | none => exact ⟨c, by simp [smallOf, other, listed], letter, listed, notDotted⟩
  | some image =>
    have point := CaseRun.toNat_image listed
    refine ⟨Char.ofNat image, by simp [smallOf, other, listed], ?_, ?_, ?_⟩
    · rw [isLetter, point]
      exact CaseRun.covers_image listed letter
    · rw [point]
      exact CaseRun.image?_image listed
    · intro isDotted
      exact CaseRun.image_ne_dotted listed (by rw [← point, isDotted]; rfl)

/-- The small forms of the capital sigma, at the end of a word and elsewhere. -/
def smallSigma (isFinal : Bool) : Char := Char.ofNat (if isFinal then 0x03C2 else 0x03C3)

/-- The small sigma is a small letter, within a word and at its end. -/
theorem isSmallLetter_smallSigma (isFinal : Bool) : IsSmallLetter (smallSigma isFinal) := by
  cases isFinal <;> exact ⟨by decide +kernel, by decide +kernel, by decide⟩

/-- A character adds its small form to that of what follows; only of a sigma it depends on what stands
around it. -/
theorem smallAfter_cons (before : List Char) (c : Char) (rest : List Char) :
    (∃ isFinal, c = Char.ofNat 0x03A3 ∧
      smallAfter before (c :: rest) = smallSigma isFinal :: smallAfter (c :: before) rest) ∨
    smallAfter before (c :: rest) = smallOf c ++ smallAfter (c :: before) rest := by
  by_cases isSigma : c.toNat = 0x03A3
  · refine .inl ⟨meetsCased before && !meetsCased rest, by rw [← isSigma, Char.ofNat_toNat], ?_⟩
    simp [smallAfter, isSigma, smallSigma]
  · simp [smallAfter, isSigma]

section Texts

variable {before characters : List Char} {small : Char} {text : String}

/-- Every character has a small form. -/
theorem smallOf_ne_nil (c : Char) : smallOf c ≠ [] := by
  unfold smallOf
  split
  · simp
  · split <;> simp

/-- The small form of some characters is not empty. -/
theorem smallAfter_ne_nil (some : characters ≠ []) : smallAfter before characters ≠ [] := by
  obtain ⟨c, rest, rfl⟩ := List.exists_cons_of_ne_nil some
  rcases smallAfter_cons before c rest with ⟨isFinal, -, added⟩ | added <;>
    simp [added, smallOf_ne_nil]

/-- Small letters are their own small form. -/
theorem smallAfter_of_small (isSmall : ∀ c ∈ characters, IsSmallLetter c) :
    smallAfter before characters = characters := by
  induction characters generalizing before with
  | nil => rfl
  | cons c rest ih =>
    obtain ⟨first, others⟩ := List.forall_mem_cons.mp isSmall
    simp [smallAfter, first.notSigma, first.smallOf_eq, ih others]

/-- Small forms of letters are letters that are their own small forms, and the marks of dotted
capitals. -/
theorem isSmallLetter_of_mem_smallAfter (letters : ∀ c ∈ characters, isLetter c = true)
    (member : small ∈ smallAfter before characters) :
    IsSmallLetter small ∨ small = dotAbove ∧ dottedI ∈ characters := by
  induction characters generalizing before with
  | nil => simp [smallAfter] at member
  | cons c rest ih =>
    obtain ⟨letter, others⟩ := List.forall_mem_cons.mp letters
    have later (found : small ∈ smallAfter (c :: before) rest) :
        IsSmallLetter small ∨ small = dotAbove ∧ dottedI ∈ c :: rest :=
      (ih others found).imp_right (And.imp_right (List.mem_cons_of_mem c))
    rcases smallAfter_cons before c rest with ⟨isFinal, -, added⟩ | added
    · rw [added, List.mem_cons] at member
      rcases member with rfl | found
      · exact .inl (isSmallLetter_smallSigma isFinal)
      · exact later found
    · rw [added, List.mem_append] at member
      rcases member with here | found
      · by_cases dotted : c = dottedI
        · subst dotted
          obtain rfl | rfl : small = 'i' ∨ small = dotAbove := by
            simpa [smallOf_dottedI] using here
          · exact .inl ⟨by decide +kernel, by decide +kernel, by decide⟩
          · exact .inr ⟨rfl, List.mem_cons_self⟩
        · obtain ⟨alone, form, isSmall⟩ := smallOf_of_letter letter dotted
          obtain rfl : small = alone := by simpa [form] using here
          exact .inl isSmall
      · exact later found

/-- The mark of a dotted capital stays in the small form. -/
theorem dotAbove_mem_smallAfter (dotted : dottedI ∈ characters) :
    dotAbove ∈ smallAfter before characters := by
  induction characters generalizing before with
  | nil => simp at dotted
  | cons c rest ih =>
    rcases List.mem_cons.mp dotted with rfl | later
    · rcases smallAfter_cons before dottedI rest with ⟨isFinal, isSigma, -⟩ | added
      · exact absurd isSigma (by decide)
      · simp [added, smallOf_dottedI]
    · rcases smallAfter_cons before c rest with ⟨isFinal, -, added⟩ | added <;>
        simp [added, ih later]

/-- A text is alphabetic where it is made of letters and not empty. -/
theorem isAlphabetic_iff :
    isAlphabetic text = true ↔ text.toList ≠ [] ∧ ∀ c ∈ text.toList, isLetter c = true := by
  simp [isAlphabetic]

/-- Where the dotted capital is not among its letters, the small form of a text is made of letters that are
their own small forms. -/
theorem isSmallLetter_of_mem_lower (alphabetic : isAlphabetic text = true)
    (notDotted : dottedI ∉ text.toList) : ∀ small ∈ (lower text).toList, IsSmallLetter small := by
  intro small member
  rw [lower, String.toList_ofList] at member
  have letters := (isAlphabetic_iff.mp alphabetic).2
  exact (isSmallLetter_of_mem_smallAfter letters member).resolve_right fun mark => notDotted mark.2

/-- The small form of a text of letters is made of letters unless the dotted capital is among them. -/
theorem isAlphabetic_lower_iff (alphabetic : isAlphabetic text = true) :
    isAlphabetic (lower text) = true ↔ dottedI ∉ text.toList := by
  constructor
  · intro smallLetters dotted
    have mark : dotAbove ∈ (lower text).toList := by
      rw [lower, String.toList_ofList]
      exact dotAbove_mem_smallAfter dotted
    exact absurd ((isAlphabetic_iff.mp smallLetters).2 dotAbove mark) (by decide +kernel)
  · intro notDotted
    have small := isSmallLetter_of_mem_lower alphabetic notDotted
    refine isAlphabetic_iff.mpr ⟨?_, fun c member => (small c member).isLetter⟩
    rw [lower, String.toList_ofList]
    exact smallAfter_ne_nil (isAlphabetic_iff.mp alphabetic).1

/-- A small form of letters is its own small form. -/
theorem lower_lower (alphabetic : isAlphabetic text = true) (notDotted : dottedI ∉ text.toList) :
    lower (lower text) = lower text := by
  have small := isSmallLetter_of_mem_lower alphabetic notDotted
  rw [lower, smallAfter_of_small small, String.ofList_toList]

/-- No colon comes into the small form of letters. -/
theorem colon_not_mem_lower (alphabetic : isAlphabetic text = true) : ':' ∉ (lower text).toList := by
  intro member
  rw [lower, String.toList_ofList] at member
  rcases isSmallLetter_of_mem_smallAfter (isAlphabetic_iff.mp alphabetic).2 member with
    isSmall | ⟨isMark, -⟩
  · exact absurd isSmall.isLetter (by decide +kernel)
  · exact absurd isMark (by decide)

end Texts

/-! ## Words of plain letters -/

/-- Whether a character is a small plain letter which is the small form of nothing but plain letters. -/
def isPlainSmall (c : Char) : Bool := c.isLower && c ≠ 'i' && c ≠ 'k'

/-- Where the plain capitals are. -/
theorem isUpper_iff_toNat {c : Char} : c.isUpper = true ↔ 0x41 ≤ c.toNat ∧ c.toNat ≤ 0x5A := by
  show decide (c.val ≥ 'A'.val ∧ c.val ≤ 'Z'.val) = true ↔ _
  simp [UInt32.le_iff_toNat_le]

/-- Where the plain small letters are. -/
theorem isLower_iff_toNat {c : Char} : c.isLower = true ↔ 0x61 ≤ c.toNat ∧ c.toNat ≤ 0x7A := by
  show (decide (c.val ≥ 'a'.val) && decide (c.val ≤ 'z'.val)) = true ↔ _
  simp [UInt32.le_iff_toNat_le]

/-- A plain letter is a capital or a small one. -/
theorem isAlpha_iff {c : Char} : c.isAlpha = true ↔ c.isUpper = true ∨ c.isLower = true :=
  Bool.or_eq_true_iff

/-- The small letters stand 32 code points after the capitals. -/
theorem toNat_toLower {c : Char} (isUpper : c.isUpper = true) : c.toLower.toNat = c.toNat + 32 := by
  obtain ⟨first, last⟩ := isUpper_iff_toNat.mp isUpper
  have inRange : c.val ≥ 'A'.val ∧ c.val ≤ 'Z'.val := ⟨first, last⟩
  have moved : c.toLower.toNat = (c.val + 32).toNat := congrArg Char.toNat (dif_pos inRange)
  rw [moved, UInt32.toNat_add]
  show (c.toNat + 32) % 2 ^ 32 = _
  omega

/-- What is no plain capital stays as it is. -/
theorem toLower_of_not_isUpper {c : Char} (notUpper : c.isUpper = false) : c.toLower = c := by
  have outside : ¬(c.val ≥ 'A'.val ∧ c.val ≤ 'Z'.val) := fun inRange =>
    absurd notUpper (by simp [isUpper_iff_toNat.mpr inRange])
  exact dif_neg outside

/-- Only letters become small letters. -/
theorem isAlpha_of_toLower {c : Char} (isLower : c.toLower.isLower = true) : c.isAlpha = true := by
  cases isUpper : c.isUpper with
  | true => exact isAlpha_iff.mpr (.inl isUpper)
  | false =>
    rw [toLower_of_not_isUpper isUpper] at isLower
    exact isAlpha_iff.mpr (.inr isLower)

/-- The small form of a plain letter is the plain small one. -/
theorem smallOf_of_isAlpha {c : Char} (plain : c.isAlpha = true) : smallOf c = [c.toLower] := by
  rcases isAlpha_iff.mp plain with isUpper | isLower
  · obtain ⟨first, last⟩ := isUpper_iff_toNat.mp isUpper
    have listed : CaseRun.image? smallRuns c.toNat = some (c.toNat + 32) := by
      rw [smallRuns, CaseRun.image?, if_neg (Nat.not_lt.mpr first), if_pos (by simp [last, Nat.mod_one])]
      show some (0x61 + (c.toNat - 0x41)) = some (c.toNat + 32)
      exact congrArg some (by omega)
    have notDotted : c.toNat ≠ 0x0130 := by omega
    rw [← Char.ofNat_toNat c.toLower, toNat_toLower isUpper]
    simp [smallOf, notDotted, listed]
  · obtain ⟨first, last⟩ := isLower_iff_toNat.mp isLower
    have unlisted : CaseRun.image? smallRuns c.toNat = none := by
      have above : ¬c.toNat < 0x41 := by omega
      have below : c.toNat < 0xC0 := by omega
      rw [smallRuns, CaseRun.image?, if_neg above, if_neg (by simp; omega), CaseRun.image?,
        if_pos below]
    have notDotted : c.toNat ≠ 0x0130 := by omega
    have notUpper : c.isUpper = false := by
      rw [← Bool.not_eq_true, isUpper_iff_toNat]
      omega
    simp [smallOf, notDotted, unlisted, toLower_of_not_isUpper notUpper]

variable {c small : Char} {more before characters word : List Char}

/-- What has a plain letter in its small form, other than i and k, is this letter in either case. -/
theorem toLower_of_smallOf (plain : isPlainSmall small = true) (form : smallOf c = small :: more) :
    c.toLower = small ∧ more = [] := by
  simp only [isPlainSmall, Bool.and_eq_true, decide_eq_true_eq] at plain
  obtain ⟨⟨isLower, notI⟩, notK⟩ := plain
  obtain ⟨first, last⟩ := isLower_iff_toNat.mp isLower
  suffices isAlpha : c.isAlpha = true by
    rw [smallOf_of_isAlpha isAlpha] at form
    simpa [eq_comm] using form
  unfold smallOf at form
  split at form
  · exact absurd (List.cons.inj form).1.symm notI
  · cases listed : CaseRun.image? smallRuns c.toNat with
    | none =>
      obtain ⟨rfl, -⟩ : c = small ∧ [] = more := by simpa [listed] using form
      exact isAlpha_iff.mpr (.inr isLower)
    | some image =>
      obtain ⟨rfl, -⟩ : Char.ofNat image = small ∧ [] = more := by simpa [listed] using form
      rw [CaseRun.toNat_image listed] at first last
      have other : image ≠ 0x6B := fun same => notK (by rw [same])
      obtain ⟨low, high, -⟩ := CaseRun.plain_of_image listed (by omega) other
      exact isAlpha_iff.mpr (.inl (isUpper_iff_toNat.mpr ⟨low, high⟩))

/-- What spells this letter in either case has it for its small form. -/
theorem smallOf_of_toLower (plain : isPlainSmall c.toLower = true) : smallOf c = [c.toLower] := by
  simp only [isPlainSmall, Bool.and_eq_true] at plain
  exact smallOf_of_isAlpha (isAlpha_of_toLower plain.1.1)

/-- A word of plain small letters, i and k not among them, is the small form of what spells it and of
nothing else. -/
theorem smallAfter_eq_iff (plain : ∀ c ∈ word, isPlainSmall c = true) :
    smallAfter before characters = word ↔ characters.map Char.toLower = word := by
  induction characters generalizing before word with
  | nil => rfl
  | cons c rest ih =>
    rw [List.map_cons]
    rcases smallAfter_cons before c rest with ⟨isFinal, rfl, added⟩ | added
    · -- No sigma is plain, neither the capital, which is left as it is, nor its small forms.
      constructor
      · rintro rfl
        have sigma := plain (smallSigma isFinal) (by simp [added])
        cases isFinal <;> exact absurd sigma (by decide)
      · rintro rfl
        exact absurd (plain _ List.mem_cons_self) (by decide)
    · rw [added]
      constructor
      · intro same
        obtain ⟨first, more, form⟩ := List.exists_cons_of_ne_nil (smallOf_ne_nil c)
        rw [form, List.cons_append] at same
        subst same
        obtain ⟨firstPlain, others⟩ := List.forall_mem_cons.mp plain
        obtain ⟨lower, rfl⟩ := toLower_of_smallOf firstPlain form
        rw [lower, (ih others).mp rfl, List.nil_append]
      · rintro rfl
        obtain ⟨lowerPlain, others⟩ := List.forall_mem_cons.mp plain
        rw [smallOf_of_toLower lowerPlain, (ih others).mpr rfl, List.singleton_append]

/-- A word of plain letters without i and k is the small form of what spells it in either case, and of
nothing else. -/
theorem lower_eq_iff {text word : String} (plain : ∀ c ∈ word.toList, isPlainSmall c = true) :
    lower text = word ↔ text.toList.map Char.toLower = word.toList := by
  rw [← String.toList_inj, lower, String.toList_ofList, smallAfter_eq_iff plain]

end Switchboard.Text
