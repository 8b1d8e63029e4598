import Mathlib.Data.List.Basic
import Reconciler.Key

/-!
# The textual form of keys

Reading the textual form of a key undoes writing it.  A text is read exactly if its
slashes split it into one or two parts, none of them empty, and what is read is written
that way again.  So keys whose parts are not empty and have no slash correspond to the
texts that can be read, one key to each text.
-/

namespace Reconciler

namespace Key

/-! ## The parts of a text -/

section

variable {text : String} {parts : List String}

/-- The parts into which its slashes split a text: there is at least one, none has a
slash, and joined by single slashes they are the text. -/
structure Splits (text : String) (parts : List String) : Prop where
  exist : parts ≠ []
  joined : "/".intercalate parts = text
  slashless : ∀ part ∈ parts, '/' ∉ part.toList

theorem segments_eq_splitOn (chars : List Char) : segments chars = chars.splitOn '/' := by
  induction chars with
  | nil => rfl
  | cons char rest ih =>
      rw [List.splitOn_cons_eq_if_modifyHead, segments, ih]
      by_cases slash : char = '/'
      · simp [slash]
      · have parted := List.splitOn_ne_nil '/' rest
        cases split : rest.splitOn '/' with
        | nil => exact absurd split parted
        | cons first others => simp [slash]

theorem slash_not_mem_of_mem_segments {chars segment : List Char}
    (member : segment ∈ segments chars) : '/' ∉ segment := by
  induction chars generalizing segment with
  | nil => simp_all [segments]
  | cons char rest ih =>
      rw [segments] at member
      split at member
      · rcases List.mem_cons.mp member with rfl | later
        · exact List.not_mem_nil
        · exact ih later
      · rename_i other
        split at member
        · rw [List.mem_singleton] at member
          simpa [member] using Ne.symm other
        · rename_i first others split
          rcases List.mem_cons.mp member with rfl | later
          · have clean := ih (split ▸ List.mem_cons_self)
            simpa [clean] using Ne.symm other
          · exact ih (split ▸ List.mem_cons_of_mem first later)

/-- There is one way to split a text at its slashes. -/
theorem splits_iff : Splits text parts ↔ segments text.toList = parts.map String.toList := by
  constructor
  · rintro ⟨exist, rfl, slashless⟩
    rw [segments_eq_splitOn, String.toList_intercalate]
    refine List.splitOn_intercalate '/' ?_ (by simpa using exist)
    intro chars member
    obtain ⟨part, partMember, rfl⟩ := List.mem_map.mp member
    exact slashless part partMember
  · intro same
    refine ⟨?_, ?_, ?_⟩
    · rintro rfl
      exact segments_ne_nil text.toList same
    · rw [← String.toList_inj, String.toList_intercalate, ← same, segments_eq_splitOn]
      exact List.intercalate_splitOn '/'
    · intro part member
      have listed : part.toList ∈ segments text.toList := same ▸ List.mem_map_of_mem member
      exact slash_not_mem_of_mem_segments listed

end

/-! ## The parts of a key -/

/-- The parts of the textual form of a key. -/
def parts (key : Key) : List String :=
  key.ns.toList ++ [key.name]

theorem text_eq_intercalate (key : Key) : key.text = "/".intercalate key.parts := by
  obtain ⟨ns | ns, name⟩ := key <;> simp [text, parts]

theorem exists_parts_iff {parts : List String} :
    (∃ key : Key, key.parts = parts) ↔ parts.length = 1 ∨ parts.length = 2 := by
  constructor
  · rintro ⟨⟨ns | ns, name⟩, rfl⟩ <;> simp [Key.parts]
  · rintro (one | two)
    · obtain ⟨name, rfl⟩ := List.length_eq_one_iff.mp one
      exact ⟨⟨none, name⟩, rfl⟩
    · obtain ⟨ns, name, rfl⟩ := List.length_eq_two.mp two
      exact ⟨⟨some ns, name⟩, rfl⟩

/-- A key of which neither the name nor the namespace is empty or has a slash. -/
structure Plain (key : Key) : Prop where
  filled : ∀ part ∈ key.parts, part ≠ ""
  slashless : ∀ part ∈ key.parts, '/' ∉ part.toList

theorem Plain.splits {key : Key} (plain : key.Plain) : Splits key.text key.parts :=
  ⟨by simp [parts], key.text_eq_intercalate.symm, plain.slashless⟩

/-! ## Reading -/

theorem parse_cases (text : String) :
    (∃ key, parse text = .ok key) ∨ parse text = .error (unreadable text) := by
  unfold parse
  split
  · split <;> simp
  · split <;> simp
  · exact .inr rfl

theorem parse_of_splits {text : String} {key : Key} (splits : Splits text key.parts)
    (filled : ∀ part ∈ key.parts, part ≠ "") : parse text = .ok key := by
  have split := splits_iff.mp splits
  obtain ⟨ns | ns, name⟩ := key
  · have named : name ≠ "" := filled name (by simp [parts])
    simp [parse, split, parts, named]
  · have placed : ns ≠ "" := filled ns (by simp [parts])
    have named : name ≠ "" := filled name (by simp [parts])
    simp [parse, split, parts, placed, named]

theorem splits_of_parse {text : String} {key : Key} (read : parse text = .ok key) :
    Splits text key.parts ∧ ∀ part ∈ key.parts, part ≠ "" := by
  rw [splits_iff]
  unfold parse at read
  split at read
  · rename_i name split
    split_ifs at read with empty
    injection read with same
    simp [← same, split, parts, empty]
  · rename_i ns name split
    split_ifs at read with empty
    injection read with same
    simp_all [← same, parts]
  · cases read

theorem plain_of_parse {text : String} {key : Key} (read : parse text = .ok key) : key.Plain :=
  ⟨(splits_of_parse read).2, (splits_of_parse read).1.slashless⟩

/-- A text with one or two parts, none of them empty. -/
def IsTextual (text : String) : Prop :=
  ∃ parts, Splits text parts ∧ (parts.length = 1 ∨ parts.length = 2) ∧ ∀ part ∈ parts, part ≠ ""

theorem isTextual_iff {text : String} : IsTextual text ↔ ∃ key, parse text = .ok key := by
  constructor
  · rintro ⟨parts, splits, count, filled⟩
    obtain ⟨key, rfl⟩ := exists_parts_iff.mpr count
    exact ⟨key, parse_of_splits splits filled⟩
  · rintro ⟨key, read⟩
    obtain ⟨splits, filled⟩ := splits_of_parse read
    exact ⟨key.parts, splits, exists_parts_iff.mp ⟨key, rfl⟩, filled⟩

/-- Exactly the texts of one or two parts can be read, all others are refused as malformed.
What is read is a plain key that is written as the text again, every plain key is read from
its textual form, and no two plain keys share it. -/
theorem parse_inverts_text :
    (∀ text, IsTextual text ↔ ∃ key, parse text = .ok key) ∧
      (∀ text key, parse text = .ok key → key.Plain ∧ key.text = text) ∧
      (∀ text, ¬IsTextual text →
        parse text = .error (.malformedKey ("unexpected key format: " ++ Text.quoted text))) ∧
      (∀ key : Key, key.Plain → parse key.text = .ok key) ∧
      ∀ key other : Key, key.Plain → other.Plain → key.text = other.text → key = other := by
  have returned : ∀ key : Key, key.Plain → parse key.text = .ok key := fun key plain =>
    parse_of_splits plain.splits plain.filled
  refine ⟨fun text => isTextual_iff, ?_, ?_, returned, ?_⟩
  · intro text key read
    refine ⟨plain_of_parse read, ?_⟩
    rw [text_eq_intercalate]
    exact (splits_of_parse read).1.joined
  · intro text other
    exact (parse_cases text).resolve_left (isTextual_iff.not.mp other)
  · intro key other plain otherPlain same
    have read := returned key plain
    rw [same, returned other otherPlain] at read
    injection read with same
    exact same.symm

/-- A key with a namespace, and a text that has an empty part between two slashes. -/
theorem parse_inverts_text_of_namespaced :
    (parse "ns/foo" = .ok ⟨some "ns", "foo"⟩ ∧ ¬IsTextual "ns//foo") ∧
      parse "ns//foo" =
        .error (.malformedKey ("unexpected key format: " ++ Text.quoted "ns//foo")) := by
  obtain ⟨accepted, -, refused, returned, -⟩ := parse_inverts_text
  have plain : Plain ⟨some "ns", "foo"⟩ := ⟨by decide, by decide⟩
  have other : ¬IsTextual "ns//foo" := by
    rw [accepted]
    rintro ⟨key, read⟩
    cases read
  exact ⟨⟨returned _ plain, other⟩, refused _ other⟩

end Key

end Reconciler
