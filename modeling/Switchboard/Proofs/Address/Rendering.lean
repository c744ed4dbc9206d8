import Switchboard.Classifier
import Switchboard.Proofs.Text.SmallForm

/-!
# Addresses in writing

A text with a scheme of letters is parsed at its first colon, and any other text is a telephone number
as a whole. What an address is written as is parsed to the same address again, unless its scheme was
written with the capital I that has a dot: the small form of this letter ends in a mark, so that the
scheme in small letters is none of letters any more, and the written form is taken for a telephone
number as a whole (`parse_render_iff`).
-/

namespace Switchboard.Address

open Text (isAlphabetic lower dottedI)

variable {written scheme part : String}

/-- The characters of a scheme, a colon and the rest. -/
theorem toList_joined (scheme part : String) :
    (scheme ++ ":" ++ part).toList = scheme.toList ++ ':' :: part.toList := by
  simp

/-- No text of letters has a colon. -/
theorem colon_not_mem (alphabetic : isAlphabetic scheme = true) : ':' ∉ scheme.toList := by
  intro member
  exact absurd ((Text.isAlphabetic_iff.mp alphabetic).2 ':' member) (by decide +kernel)

/-- Letters before the first colon are a scheme, and read small. -/
theorem parse_of_scheme (alphabetic : isAlphabetic scheme = true) (part : String) :
    parse (scheme ++ ":" ++ part) = ⟨lower scheme, part⟩ := by
  have cut := Text.splitAt?_append (colon_not_mem alphabetic) part.toList
  simp [parse, cut, alphabetic]

/-- What stands before the first colon is no scheme unless it is made of letters. -/
theorem parse_of_not_scheme (noColon : ':' ∉ scheme.toList) (other : isAlphabetic scheme = false)
    (part : String) :
    parse (scheme ++ ":" ++ part) = ⟨defaultScheme, scheme ++ ":" ++ part⟩ := by
  have cut := Text.splitAt?_append noColon part.toList
  simp [parse, cut, other]

/-- A text either has letters before its first colon or is a part without a scheme. -/
theorem parse_cases (written : String) :
    (∃ scheme part, written = scheme ++ ":" ++ part ∧ isAlphabetic scheme = true) ∨
      parse written = ⟨defaultScheme, written⟩ := by
  unfold parse
  split
  next => exact .inr rfl
  next scheme part cut =>
    split
    next alphabetic =>
      refine .inl ⟨String.ofList scheme, String.ofList part, ?_, alphabetic⟩
      rw [← String.toList_inj, toList_joined, (Text.eq_append_of_splitAt? cut).1]
      simp
    next => exact .inr rfl

/-- A telephone number that is written with its scheme is itself, whatever it is made of. -/
theorem parse_defaultScheme (number : String) :
    parse (defaultScheme ++ ":" ++ number) = ⟨defaultScheme, number⟩ := by
  have alphabetic : isAlphabetic defaultScheme = true := by decide +kernel
  have small : lower defaultScheme = defaultScheme := by decide +kernel
  rw [parse_of_scheme alphabetic, small]

/-- Whether a text has a scheme of letters with a dotted capital I among them. -/
def HasDottedScheme (written : String) : Prop :=
  ∃ scheme part, written = scheme ++ ":" ++ part ∧ isAlphabetic scheme = true ∧
    dottedI ∈ scheme.toList

/-- An address that is written and read again stays, unless its scheme has a capital I with a dot.
-/
theorem parse_render_of_not_dotted (notDotted : ¬HasDottedScheme written) :
    parse (parse written).render = parse written := by
  rcases parse_cases written with ⟨scheme, part, rfl, alphabetic⟩ | asNumber
  · have plain : dottedI ∉ scheme.toList := fun dotted =>
      notDotted ⟨scheme, part, rfl, alphabetic, dotted⟩
    have smallAlphabetic := (Text.isAlphabetic_lower_iff alphabetic).mpr plain
    rw [parse_of_scheme alphabetic, render, parse_of_scheme smallAlphabetic,
      Text.lower_lower alphabetic plain]
  · rw [asNumber, render, parse_defaultScheme]

/-- With such a scheme, what is written has no scheme when it is read again. -/
theorem parse_render_of_dotted (dotted : HasDottedScheme written) :
    parse (parse written).render = ⟨defaultScheme, (parse written).render⟩ := by
  obtain ⟨scheme, part, rfl, alphabetic, isDotted⟩ := dotted
  have marked : isAlphabetic (lower scheme) = false := by
    rw [← Bool.not_eq_true, Text.isAlphabetic_lower_iff alphabetic]
    exact not_not_intro isDotted
  rw [parse_of_scheme alphabetic, render,
    parse_of_not_scheme (Text.colon_not_mem_lower alphabetic) marked]

/-- An address is longer when it is written than its part is. -/
theorem render_ne_part (address : Address) : address.render ≠ address.part := by
  intro same
  have lengths := congrArg String.length same
  simp [render] at lengths

/-- What an address is written as is parsed to this address exactly where no dotted capital stands in
its scheme as it was dialled. There both forms are classified alike, by every classifier. With a dotted
capital the written form is a telephone number as a whole, and an authority is asked about it and
not about the part of the address. -/
theorem parse_render_iff (written : String) :
    (parse (parse written).render = parse written ↔ ¬HasDottedScheme written) ∧
    (¬HasDottedScheme written →
      ∀ (Place : Type) (registryOf : Place → Registry) (classifier : Classifier Place) (reply : Reply),
        classifier.isEmergency registryOf (some (parse (parse written).render)) reply =
          classifier.isEmergency registryOf (some (parse written)) reply) ∧
    (HasDottedScheme written →
      (parse (parse written).render).part = (parse written).render ∧
        (parse written).render ≠ (parse written).part) := by
  refine ⟨⟨?lost, parse_render_of_not_dotted⟩, ?alike, ?apart⟩
  case lost =>
    intro same dotted
    rw [parse_render_of_dotted dotted] at same
    exact render_ne_part _ (congrArg Address.part same)
  case alike =>
    intro notDotted Place registryOf classifier reply
    rw [parse_render_of_not_dotted notDotted]
  case apart =>
    intro dotted
    exact ⟨by rw [parse_render_of_dotted dotted], render_ne_part _⟩

/-- With the dotted capital as its scheme an address is parsed to another one from its written form. -/
theorem parse_render_dottedI :
    parse "İ:911" = ⟨"i̇", "911"⟩ ∧ parse (parse "İ:911").render = ⟨"tel", "i̇:911"⟩ := by
  decide +kernel

end Switchboard.Address
