import Mathlib.Data.List.Basic
import Mathlib.Data.List.Chain
import Mathlib.Data.List.Lex
import Switchboard.Proofs.Ranking.Answering
import Switchboard.Proofs.Registry.History

/-!
# Names

Names are texts. A text is one key with itself only, and texts are held against each other by their
code points, be they kept as these or not. So the names of a registry can always be listed: each
once, in ascending order (`names_of_texts`).
-/

namespace Switchboard

namespace Text

/-- No code point of a text is a half of a pair. -/
theorem isHalf_eq_false_of_mem_points {point : Nat} {text : String} (member : point ∈ points text) :
    isHalf point = false := by
  obtain ⟨c, _, rfl⟩ := List.mem_map.mp member
  exact isHalf_toNat c

/-- Texts with the same code points are equal. -/
theorem points_injective {left right : String} (same : points left = points right) :
    left = right :=
  String.toList_inj.mp (List.map_injective_iff.mpr (fun _ _ => Char.toNat_inj.mp) same)

/-- Texts are ordered as their code points are. -/
theorem points_lt_iff (left right : String) : points left < points right ↔ left < right := by
  rw [String.lt_iff, points, points]
  generalize left.toList = front
  generalize right.toList = back
  induction front generalizing back with
  | nil => cases back <;> simp
  | cons c rest ih =>
    cases back with
    | nil => simp
    | cons d others =>
      have first : c.toNat < d.toNat ↔ c < d := Iff.rfl
      simp [List.cons_lt_cons_iff, first, Char.toNat_inj, ih]

end Text

namespace Scalar

/-- Whether a scalar is a text. One that holds no halves is not kept as its code points. -/
def IsText (content : Scalar) : Prop := ∃ points, content = .ofPoints points

/-- The code points of a text. -/
def points (content : Scalar) : List Nat := content.points?.getD []

/-- What is written as a text is one. -/
theorem isText_text (characters : String) : (Scalar.text characters).IsText := by
  have whole : (Text.points characters).any Text.isHalf = false :=
    List.any_eq_false.mpr fun point member => by
      simp [Text.isHalf_eq_false_of_mem_points member]
  refine ⟨Text.points characters, ?_⟩
  have same : (Text.points characters).map Text.charAt = characters.toList := by
    rw [Text.points, List.map_map]
    refine (List.map_congr_left fun c member => ?_).trans (List.map_id _)
    have plain := Text.isHalf_eq_false_of_mem_points (List.mem_map_of_mem member)
    simp [Text.charAt, plain]
  simp [ofPoints, whole, Text.ofPoints, same]

variable {content other : Scalar}

/-- A text is given by its characters or, with halves of pairs in it, by its code points. -/
theorem IsText.cases (isText : content.IsText) :
    (∃ characters, content = .text characters) ∨
      ∃ points, points.any Text.isHalf = true ∧ content = .halved points := by
  obtain ⟨points, rfl⟩ := isText
  cases half : points.any Text.isHalf with
  | true => exact .inr ⟨points, half, by simp [ofPoints, half]⟩
  | false => exact .inl ⟨Text.ofPoints points, by simp [ofPoints, half]⟩

/-- A text is of the kind of texts. -/
theorem IsText.kind (isText : content.IsText) : content.kind = .text := by
  obtain ⟨_, rfl⟩ | ⟨_, _, rfl⟩ := isText.cases <;> rfl

/-- A text is told by its code points. -/
theorem IsText.eq_of_points (isText : content.IsText) (otherIsText : other.IsText)
    (same : content.points = other.points) : content = other := by
  -- Of a text that is kept as code points one is a half, of any other one none is.
  have apart : ∀ (characters : String) (points : List Nat), points.any Text.isHalf = true →
      Text.points characters ≠ points := by
    rintro characters _ half rfl
    obtain ⟨point, member, isHalf⟩ := List.any_eq_true.mp half
    simp [Text.isHalf_eq_false_of_mem_points member] at isHalf
  obtain ⟨characters, rfl⟩ | ⟨points, half, rfl⟩ := isText.cases <;>
    obtain ⟨others, rfl⟩ | ⟨morePoints, moreHalf, rfl⟩ := otherIsText.cases
  · exact congrArg _ (Text.points_injective same)
  · exact absurd same (apart characters morePoints moreHalf)
  · exact absurd same.symm (apart others points half)
  · exact congrArg _ same

/-- Texts precede each other as their code points do. -/
theorem IsText.precedes_iff (isText : content.IsText) (otherIsText : other.IsText) :
    content.precedes other = true ↔ content.points < other.points := by
  obtain ⟨characters, rfl⟩ | ⟨points, half, rfl⟩ := isText.cases <;>
    obtain ⟨others, rfl⟩ | ⟨morePoints, moreHalf, rfl⟩ := otherIsText.cases
  · simp [precedes, Scalar.points, points?, Text.points_lt_iff]
  all_goals simp [precedes, Scalar.points, fraction?, points?]

/-- Of two scalars at most one precedes the other. -/
theorem precedes_asymmetric : Ranking.Asymmetric Scalar.precedes := by
  intro first second precedes
  unfold Scalar.precedes at precedes ⊢
  split at precedes
  · exact decide_eq_false (String.lt_asymm (of_decide_eq_true precedes))
  · exact decide_eq_false (List.lt_asymm (of_decide_eq_true precedes))
  · exact decide_eq_false (Nat.lt_asymm (of_decide_eq_true precedes))
  · exact decide_eq_false (Int.lt_asymm (of_decide_eq_true precedes))
  · -- What is neither two texts nor two of a kind is compared as fractions or as code points.
    split
    case h_5 =>
      generalize first.fraction? = front at precedes ⊢
      generalize second.fraction? = back at precedes ⊢
      generalize first.points? = points at precedes ⊢
      generalize second.points? = others at precedes ⊢
      cases front <;> cases back <;> cases points <;> cases others <;>
        simp_all [Int.le_of_lt, List.lt_asymm]
    all_goals simp_all

/-- What is of the kind of texts is given by characters or by code points. -/
theorem exists_of_kind (isText : content.kind = .text) :
    (∃ characters, content = .text characters) ∨ ∃ points, content = .halved points := by
  cases content with
  | text characters => exact .inl ⟨characters, rfl⟩
  | halved points => exact .inr ⟨points, rfl⟩
  | _ => contradiction

/-- The identities of texts are theirs alone. -/
theorem kind_of_identity (content : Scalar) :
    (match content.identity with
      | .text _ | .halved _ => content.kind = .text
      | _ => content.kind ≠ .text) := by
  cases content with
  | float number =>
    cases infinite : number.isInfinite with
    | true => simp [identity, infinite, Scalar.kind]
    | false =>
      cases fraction : number.fraction? <;>
        simp [identity, infinite, fraction, Identity.ofFraction, Scalar.kind]
  | moment time => cases aware : time.offset.isSome <;> simp [identity, aware, Scalar.kind]
  | _ => simp [identity, Scalar.kind]

/-- Only a text of the same characters or code points is one key with a text. -/
theorem beq_iff_eq_of_text (isText : content.kind = .text) :
    (other == content) = true ↔ other = content := by
  refine ⟨fun same => ?_, fun same => same ▸ BEq.rfl⟩
  have alike : other.identity = content.identity := by simpa [BEq.beq] using same
  have kind := kind_of_identity other
  rw [alike] at kind
  cases content with
  | text characters =>
    obtain ⟨others, rfl⟩ | ⟨points, rfl⟩ := exists_of_kind kind
    · exact congrArg _ (Identity.text.inj alike)
    · contradiction
  | halved points =>
    obtain ⟨others, rfl⟩ | ⟨morePoints, rfl⟩ := exists_of_kind kind
    · contradiction
    · exact congrArg _ (Identity.halved.inj alike)
  | _ => contradiction

end Scalar

namespace Registry

/-- What a call is told as the name. -/
def Call.name : Call → Value
  | .register name _ | .unregister name => name

/-- Whether the name of a call is a text. -/
def Call.IsNamed (call : Call) : Prop := ∃ key : Scalar, key.IsText ∧ call.name = .scalar key

/-- A registry whose names are different texts. -/
structure IsListable (registry : Registry) : Prop where
  distinct : Entries.Distinct registry
  texts : ∀ key ∈ Entries.keys registry, key.IsText

variable {registry : Registry}

/-- A call with a text for a name leaves names that are different texts. -/
theorem IsListable.after (listable : registry.IsListable) {call : Call} (named : call.IsNamed) :
    IsListable (call.after registry) := by
  obtain ⟨key, isText, name⟩ := named
  cases call with
  | register called service =>
    obtain rfl : called = .scalar key := name
    by_cases truthy : (Value.scalar key).isTruthy = true
    · have written : Call.after registry (.register (.scalar key) service) =
          Entries.put key service registry := by
        simp [Call.after, register, truthy, Value.asKey]
      rw [written]
      refine ⟨listable.distinct.put key service, fun other member => ?_⟩
      rw [Entries.keys_put] at member
      split at member
      · exact listable.texts other member
      · rcases List.mem_append.mp member with old | new
        · exact listable.texts other old
        · exact List.mem_singleton.mp new ▸ isText
    · simpa [Call.after, register, truthy] using listable
  | unregister called =>
    obtain rfl : called = .scalar key := name
    have erased : Call.after registry (.unregister (.scalar key)) = Entries.erase key registry :=
      registry_unregister rfl
    rw [erased]
    refine ⟨listable.distinct.erase key, fun other member => ?_⟩
    rw [Entries.keys_erase] at member
    exact listable.texts other (List.mem_filter.mp member).1

/-- A registry is listable after calls with texts for names. -/
theorem isListable_run {calls : List Call} (named : ∀ call ∈ calls, call.IsNamed) :
    (run calls).IsListable := by
  induction calls using List.reverseRecOn with
  | nil => exact ⟨.nil, by simp [run, Entries.keys]⟩
  | append_singleton calls call ih =>
    simp only [List.forall_mem_append, List.forall_mem_singleton] at named
    rw [run_concat]
    exact (ih named.1).after named.2

/-- Texts can all be held against each other. -/
theorem comesBefore_of_texts {first second : Scalar} (isFirst : first.IsText)
    (isSecond : second.IsText) : first.comesBefore second = .ok (first.precedes second) := by
  have kind := isFirst.kind
  have alike := isSecond.kind
  have ordered : first.areOrdered second = true := by
    unfold Scalar.areOrdered
    split
    · simp [Scalar.kind] at kind
    · simp [kind, alike]
  rw [Scalar.comesBefore, if_pos ordered]

/-- Names that are different texts are listed each once, in ascending order of code points. -/
theorem names_of_texts (listable : registry.IsListable) :
    ∃ names, registry.names = .ok names ∧ names.Perm (Entries.keys registry) ∧
      names.Pairwise fun first second => first.points < second.points := by
  let sorted := Ranking.sort Scalar.precedes (Entries.keys registry)
  have same : sorted.Perm (Entries.keys registry) := Ranking.sort_perm _ _
  have texts : ∀ name ∈ sorted, name.IsText := fun name member =>
    listable.texts name (same.subset member)
  have answers : Ranking.Answers False Scalar.IsText Scalar.comesBefore Scalar.precedes :=
    fun _ _ isFirst isSecond => .inl (comesBefore_of_texts isFirst isSecond)
  have listed : registry.names = .ok sorted :=
    (Ranking.sortM_yields answers listable.texts).eq_ok id
  refine ⟨sorted, listed, same, ?_⟩
  -- Neighbours do not fall, so no two names do; and no two names have the same code points.
  have linked : (sorted.map Scalar.points).IsChain (· ≤ ·) := by
    refine (List.isChain_map _).mpr ((Ranking.sort_linked _ Scalar.precedes_asymmetric _).imp_of_mem_imp
      fun first second isFirst isSecond link => not_lt.mp fun falls => ?_)
    have precedes := ((texts second isSecond).precedes_iff (texts first isFirst)).mpr falls
    simp [Ranking.Linked, precedes] at link
  have rising : sorted.Pairwise fun first second => first.points ≤ second.points :=
    List.pairwise_map.mp (List.isChain_iff_pairwise.mp linked)
  have different : sorted.Pairwise (· ≠ ·) := by
    refine (same.pairwise_iff fun different => different.symm).mpr (listable.distinct.imp ?_)
    rintro first _ apart rfl
    simp at apart
  refine (rising.and different).imp_of_mem fun isFirst isSecond both => ?_
  exact both.1.lt_of_ne fun alike => both.2 ((texts _ isFirst).eq_of_points (texts _ isSecond) alike)

end Registry

end Switchboard
