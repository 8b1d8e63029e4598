import Mathlib.Data.List.Forall2
import Mathlib.Data.List.Induction
import Reconciler.Json.Document
import Reconciler.Proofs.Success
import Reconciler.Proofs.Table

/-!
# What documents show

A document shows a value if it has that value and no object in it has two fields with
one name.  The fields may stand in any order, and the places in a text do not matter.

Tidy values are the ones that documents in memory and in texts show: objects list their
fields in the order of the names, and there are no numbers and no `null`.
-/

namespace Reconciler

section Paired

variable {α β : Type} {related : α → β → Prop} {firsts : List α} {seconds : List β}

theorem exists_of_mem_left (paired : List.Forall₂ related firsts seconds) {first : α}
    (member : first ∈ firsts) : ∃ second ∈ seconds, related first second := by
  induction paired with
  | nil => cases member
  | cons head _ ih =>
      rcases List.mem_cons.mp member with rfl | later
      · exact ⟨_, List.mem_cons_self, head⟩
      · obtain ⟨second, listed, holds⟩ := ih later
        exact ⟨second, List.mem_cons_of_mem _ listed, holds⟩

theorem exists_of_mem_right (paired : List.Forall₂ related firsts seconds) {second : β}
    (member : second ∈ seconds) : ∃ first ∈ firsts, related first second := by
  have turned : List.Forall₂ (fun second first => related first second) seconds firsts :=
    paired.flip
  exact exists_of_mem_left turned member

theorem map_eq_map_of_paired {γ : Type} {change : α → γ} {other : β → γ}
    (paired : List.Forall₂ related firsts seconds)
    (same : ∀ first second, related first second → change first = other second) :
    firsts.map change = seconds.map other := by
  induction paired with
  | nil => rfl
  | cons head _ ih => rw [List.map_cons, List.map_cons, same _ _ head, ih]

end Paired

namespace Dictionary

variable {ν μ : Type}

theorem find?_foldl_insert {entries : List (String × ν)} (nodup : (entries.map Prod.fst).Nodup)
    (dictionary : Dictionary ν) (name : String) :
    (entries.foldl (fun dictionary entry => dictionary.insert entry.1 entry.2) dictionary).find?
      name = (Table.lookup name entries).or (dictionary.find? name) := by
  induction entries generalizing dictionary with
  | nil => rfl
  | cons entry entries ih =>
      rw [List.map_cons, List.nodup_cons] at nodup
      rw [List.foldl_cons, ih nodup.2, find?_insert, Table.lookup]
      by_cases same : entry.1 = name
      · rw [if_pos same, if_pos same, Table.lookup_eq_none (same ▸ nodup.1)]
        rfl
      · rw [if_neg same, if_neg same]

theorem find?_ofList {entries : List (String × ν)} (nodup : (entries.map Prod.fst).Nodup)
    (name : String) : (ofList entries).find? name = Table.lookup name entries :=
  (find?_foldl_insert nodup empty name).trans (Option.or_none)

theorem entries_ofList_concat (entries : List (String × ν)) (entry : String × ν) :
    (ofList (entries ++ [entry])).entries = place entry.1 entry.2 (ofList entries).entries := by
  rw [ofList, List.foldl_append]
  rfl

theorem nodup_of_ordered {entries : List (String × ν)}
    (ordered : entries.Pairwise fun first second => first.1 < second.1) :
    (entries.map Prod.fst).Nodup := by
  rw [List.Nodup, List.pairwise_map]
  refine ordered.imp fun {first second} before same => ?_
  rw [same] at before
  exact String.lt_irrefl _ before

theorem mem_ofList_iff {entries : List (String × ν)} (nodup : (entries.map Prod.fst).Nodup)
    {entry : String × ν} : entry ∈ (ofList entries).entries ↔ entry ∈ entries := by
  have ordered := nodup_of_ordered (ofList entries).ordered
  obtain ⟨name, value⟩ := entry
  rw [← Table.lookup_eq_some_iff ordered, ← Table.lookup_eq_some_iff nodup, ← find?_ofList nodup,
    find?]

theorem mem_of_mem_ofList {entries : List (String × ν)} {entry : String × ν}
    (member : entry ∈ (ofList entries).entries) : entry ∈ entries := by
  induction entries using List.reverseRecOn with
  | nil => cases member
  | append_singleton entries last ih =>
      rw [entries_ofList_concat] at member
      rw [List.mem_append]
      rcases eq_or_mem_of_mem_place member with rfl | earlier
      · exact .inr (List.mem_singleton_self _)
      · exact .inl (ih earlier)

/-- Entries that stand in the order of their names are those of their dictionary. -/
theorem entries_ofList {entries : List (String × ν)}
    (ordered : entries.Pairwise fun first second => first.1 < second.1) :
    (ofList entries).entries = entries := by
  induction entries using List.reverseRecOn with
  | nil => rfl
  | append_singleton entries entry ih =>
      obtain ⟨rest, -, above⟩ := List.pairwise_append.mp ordered
      rw [entries_ofList_concat, ih rest]
      exact place_above fun earlier member => above earlier member entry (List.mem_singleton_self _)

theorem place_map (change : ν → μ) (name : String) (value : ν) (entries : List (String × ν)) :
    place name (change value) (entries.map (Prod.map id change)) =
      (place name value entries).map (Prod.map id change) := by
  induction entries with
  | nil => rfl
  | cons entry entries ih =>
      rw [List.map_cons, place, place, Prod.map_fst, id, ih]
      split
      · rfl
      · split <;> rfl

theorem entries_ofList_map (change : ν → μ) (entries : List (String × ν)) :
    (ofList (entries.map (Prod.map id change))).entries =
      (ofList entries).entries.map (Prod.map id change) := by
  induction entries using List.reverseRecOn with
  | nil => rfl
  | append_singleton entries entry ih =>
      rw [List.map_append, List.map_singleton, entries_ofList_concat, entries_ofList_concat, ih]
      exact place_map change entry.1 entry.2 _

end Dictionary

namespace Json

/-! ## Documents and their values -/

/-- No object in a document has two fields with one name. -/
inductive Document.Distinct : Document → Prop
  | null (span) : Distinct (.null span)
  | boolean (span value) : Distinct (.boolean span value)
  | number (span value) : Distinct (.number span value)
  | text (span value) : Distinct (.text span value)
  | list (span) {items} (each : ∀ item ∈ items, Distinct item) : Distinct (.list span items)
  | object (span) {fields} (nodup : (fields.map Prod.fst).Nodup)
      (each : ∀ field ∈ fields, Distinct field.2.2) : Distinct (.object span fields)
  | broken (start fault) : Distinct (.broken start fault)
  | cut (start fault) : Distinct (.cut start fault)

/-- A document has a value, and every field in it is named once. -/
structure Document.Shows (document : Document) (json : Json) : Prop where
  distinct : document.Distinct
  value : document.value = .ok json

/-- A field of a document shows a field of an object. -/
structure Document.ShowsField (field : String × Option Mark × Document) (entry : String × Json) :
    Prop where
  name : field.1 = entry.1
  shows : field.2.2.Shows entry.2

namespace Document

theorem names_of_showsField {fields : List (String × Option Mark × Document)}
    {entries : List (String × Json)} (each : List.Forall₂ ShowsField fields entries) :
    fields.map Prod.fst = entries.map Prod.fst :=
  map_eq_map_of_paired each fun _ _ field => field.name

theorem values_eq_ok_iff {documents : List Document} {items : List Json} :
    values documents = .ok items ↔
      List.Forall₂ (fun document item => document.value = .ok item) documents items := by
  induction documents generalizing items with
  | nil => simp [values, eq_comm]
  | cons document documents ih =>
      rw [values, bind_eq_ok_iff, List.forall₂_cons_left_iff]
      simp only [bind_eq_ok_iff, ih]
      constructor
      · rintro ⟨first, head, rest, tail, same⟩
        cases same
        exact ⟨first, rest, head, tail, rfl⟩
      · rintro ⟨first, rest, head, tail, rfl⟩
        exact ⟨first, head, rest, tail, rfl⟩

theorem fieldValues_eq_ok_iff {fields : List (String × Option Mark × Document)}
    {entries : List (String × Json)} :
    fieldValues fields = .ok entries ↔
      List.Forall₂ (fun field entry => field.1 = entry.1 ∧ field.2.2.value = .ok entry.2)
        fields entries := by
  induction fields generalizing entries with
  | nil => simp [fieldValues, eq_comm]
  | cons field fields ih =>
      obtain ⟨name, mark, document⟩ := field
      rw [fieldValues, bind_eq_ok_iff, List.forall₂_cons_left_iff]
      simp only [bind_eq_ok_iff, ih]
      constructor
      · rintro ⟨first, head, rest, tail, same⟩
        cases same
        exact ⟨(name, first), rest, ⟨rfl, head⟩, tail, rfl⟩
      · rintro ⟨⟨_, first⟩, rest, ⟨rfl, head⟩, tail, rfl⟩
        exact ⟨first, head, rest, tail, rfl⟩

@[simp]
theorem value_list (span : Option Span) (items : List Document) :
    (Document.list span items).value = (values items).map .list :=
  rfl

@[simp]
theorem value_object (span : Option Span) (fields : List (String × Option Mark × Document)) :
    (Document.object span fields).value = (fieldValues fields).map .record :=
  rfl

theorem eq_null_of_value {document : Document} (shown : document.value = .ok .null) :
    ∃ span, document = .null span := by
  cases document with
  | null span => exact ⟨span, rfl⟩
  | list => simp [map_eq_ok_iff] at shown
  | object => simp [map_eq_ok_iff, record] at shown
  | _ => cases shown

theorem eq_boolean_of_value {document : Document} {flag : Bool}
    (shown : document.value = .ok (.boolean flag)) : ∃ span, document = .boolean span flag := by
  cases document with
  | boolean span other =>
      cases shown
      exact ⟨span, rfl⟩
  | list => simp [map_eq_ok_iff] at shown
  | object => simp [map_eq_ok_iff, record] at shown
  | _ => cases shown

theorem eq_text_of_value {document : Document} {text : String}
    (shown : document.value = .ok (.text text)) : ∃ span, document = .text span text := by
  cases document with
  | text span other =>
      cases shown
      exact ⟨span, rfl⟩
  | list => simp [map_eq_ok_iff] at shown
  | object => simp [map_eq_ok_iff, record] at shown
  | _ => cases shown

theorem eq_list_of_shows {document : Document} {items : List Json}
    (shows : document.Shows (.list items)) :
    ∃ span documents, document = .list span documents ∧ List.Forall₂ Shows documents items := by
  obtain ⟨distinct, shown⟩ := shows
  cases document with
  | list span documents =>
      rw [value_list, map_eq_ok_iff] at shown
      obtain ⟨_, read, same⟩ := shown
      cases same
      cases distinct with
      | list _ each =>
          have paired := values_eq_ok_iff.mp read
          refine ⟨span, documents, rfl, ?_⟩
          rw [List.forall₂_iff_zip] at paired ⊢
          refine ⟨paired.1, fun {document item} member => ⟨?_, paired.2 member⟩⟩
          exact each document (List.of_mem_zip member).1
  | object => simp [map_eq_ok_iff, record] at shown
  | _ => cases shown

theorem eq_object_of_shows {document : Document} {entries : List (String × Json)}
    (shows : document.Shows (.object entries)) :
    ∃ span fields given, document = .object span fields ∧ (fields.map Prod.fst).Nodup ∧
      List.Forall₂ ShowsField fields given ∧ (Dictionary.ofList given).entries = entries := by
  obtain ⟨distinct, shown⟩ := shows
  cases document with
  | object span fields =>
      rw [value_object, map_eq_ok_iff] at shown
      obtain ⟨given, read, same⟩ := shown
      cases distinct with
      | object _ nodup each =>
          have paired := fieldValues_eq_ok_iff.mp read
          refine ⟨span, fields, given, rfl, nodup, ?_, by simpa [record] using same⟩
          rw [List.forall₂_iff_zip] at paired ⊢
          refine ⟨paired.1, fun {field entry} member => ?_⟩
          obtain ⟨name, shown⟩ := paired.2 member
          exact ⟨name, each field (List.of_mem_zip member).1, shown⟩
  | list => simp [map_eq_ok_iff] at shown
  | _ => cases shown

theorem shows_list (span : Option Span) {documents : List Document} {items : List Json}
    (each : List.Forall₂ Shows documents items) :
    (Document.list span documents).Shows (.list items) := by
  refine ⟨.list span ?_, ?_⟩
  · intro document member
    obtain ⟨item, -, shows⟩ := exists_of_mem_left each member
    exact shows.distinct
  · rw [value_list, values_eq_ok_iff.mpr (each.imp fun _ _ shows => shows.value)]
    rfl

theorem shows_object (span : Option Span) {fields : List (String × Option Mark × Document)}
    {entries : List (String × Json)}
    (ordered : entries.Pairwise fun first second => first.1 < second.1)
    (each : List.Forall₂ ShowsField fields entries) :
    (Document.object span fields).Shows (.object entries) := by
  refine ⟨.object span ?_ ?_, ?_⟩
  · rw [names_of_showsField each]
    exact Dictionary.nodup_of_ordered ordered
  · intro field member
    obtain ⟨entry, -, showsField⟩ := exists_of_mem_left each member
    exact showsField.shows.distinct
  · have read : fieldValues fields = .ok entries :=
      fieldValues_eq_ok_iff.mpr (each.imp fun _ _ field => ⟨field.name, field.shows.value⟩)
    have listed := Dictionary.entries_ofList ordered
    rw [value_object, read]
    exact congrArg (fun listed => Except.ok (Json.object listed)) listed

end Document

/-! ## Tidy values -/

/-- A value nested at most so deep, with the fields of its objects in the order of their
names, and without numbers and `null`. -/
inductive Tidy : Nat → Json → Prop
  | boolean {depth} (value : Bool) : Tidy depth (.boolean value)
  | text {depth} (value : String) : Tidy depth (.text value)
  | list {depth items} (each : ∀ item ∈ items, Tidy depth item) : Tidy (depth + 1) (.list items)
  | object {depth fields} (ordered : fields.Pairwise fun first second => first.1 < second.1)
      (each : ∀ field ∈ fields, Tidy depth field.2) : Tidy (depth + 1) (.object fields)

theorem Document.ofItems_eq (items : List Json) : ofItems items = items.map ofJson := by
  induction items with
  | nil => rfl
  | cons item items ih => rw [ofItems, ih, List.map_cons]

theorem Document.ofFields_eq (fields : List (String × Json)) :
    ofFields fields = fields.map fun field => (field.1, none, ofJson field.2) := by
  induction fields with
  | nil => rfl
  | cons field fields ih => rw [ofFields, ih, List.map_cons]

/-- In memory a tidy value is shown by itself. -/
theorem Tidy.shows_ofJson {depth : Nat} {json : Json} (tidy : Tidy depth json) :
    (Document.ofJson json).Shows json := by
  induction tidy with
  | boolean value => exact ⟨.boolean none value, rfl⟩
  | text value => exact ⟨.text none value, rfl⟩
  | list _ ih =>
      rw [Document.ofJson, Document.ofItems_eq]
      refine Document.shows_list none ?_
      rw [List.forall₂_map_left_iff, List.forall₂_same]
      exact ih
  | object ordered _ ih =>
      rw [Document.ofJson, Document.ofFields_eq]
      refine Document.shows_object none ordered ?_
      rw [List.forall₂_map_left_iff, List.forall₂_same]
      exact fun field member => ⟨rfl, ih field member⟩

theorem tidy_textFields {depth : Nat} (texts : Dictionary String) :
    Tidy (depth + 1) (textFields texts) := by
  refine .object (List.pairwise_map.mpr texts.ordered) fun field member => ?_
  obtain ⟨entry, -, rfl⟩ := List.mem_map.mp member
  exact .text entry.2

theorem tidy_list {depth : Nat} {α : Type} {write : α → Json} {values : List α}
    (each : ∀ value, Tidy depth (write value)) : Tidy (depth + 1) (.list (values.map write)) := by
  refine .list fun item member => ?_
  obtain ⟨value, -, rfl⟩ := List.mem_map.mp member
  exact each value

/-! ## Written records -/

/-- The fields of a record that are not left out. -/
def presentFields (present : List (String × Option Json)) : List (String × Json) :=
  present.filterMap fun field => field.2.map fun value => (field.1, value)

theorem mem_presentFields {present : List (String × Option Json)} {name : String} {json : Json} :
    (name, json) ∈ presentFields present ↔ (name, some json) ∈ present := by
  rw [presentFields, List.mem_filterMap]
  constructor
  · rintro ⟨⟨other, _ | value⟩, listed, same⟩
    · cases same
    · cases same
      exact listed
  · exact fun listed => ⟨(name, some json), listed, rfl⟩

theorem nodup_presentFields {present : List (String × Option Json)}
    (nodup : (present.map Prod.fst).Nodup) : ((presentFields present).map Prod.fst).Nodup := by
  rw [List.Nodup, List.pairwise_map] at nodup ⊢
  rw [presentFields, List.pairwise_filterMap]
  refine nodup.imp fun {first second} apart entry written later otherWritten same => apart ?_
  obtain ⟨_, -, rfl⟩ := Option.map_eq_some_iff.mp written
  obtain ⟨_, -, rfl⟩ := Option.map_eq_some_iff.mp otherWritten
  exact same

/-- A record has the fields that are not left out. -/
theorem field?_recordOfPresent {present : List (String × Option Json)}
    (nodup : (present.map Prod.fst).Nodup) {name : String} {json? : Option Json}
    (listed : (name, json?) ∈ present) : (recordOfPresent present).field? name = json? := by
  have names := nodup_presentFields nodup
  change (Dictionary.ofList (presentFields present)).find? name = json?
  rw [Dictionary.find?_ofList names]
  cases json? with
  | some json => exact (Table.lookup_eq_some_iff names).mpr (mem_presentFields.mpr listed)
  | none =>
      refine Table.lookup_eq_none fun member => ?_
      obtain ⟨⟨_, json⟩, written, rfl⟩ := List.mem_map.mp member
      have same := List.inj_on_of_nodup_map nodup listed (mem_presentFields.mp written) rfl
      cases same

/-- A record has no fields with other names. -/
theorem field?_recordOfPresent_eq_none {present : List (String × Option Json)}
    (nodup : (present.map Prod.fst).Nodup) {name : String}
    (other : name ∉ present.map Prod.fst) : (recordOfPresent present).field? name = none := by
  change (Dictionary.ofList (presentFields present)).find? name = none
  rw [Dictionary.find?_ofList (nodup_presentFields nodup)]
  refine Table.lookup_eq_none fun member => other ?_
  obtain ⟨⟨_, json⟩, written, rfl⟩ := List.mem_map.mp member
  exact List.mem_map.mpr ⟨_, mem_presentFields.mp written, rfl⟩

theorem tidy_recordOfPresent {depth : Nat} {present : List (String × Option Json)}
    (each : ∀ entry ∈ present, ∀ json ∈ entry.2, Tidy depth json) :
    Tidy (depth + 1) (recordOfPresent present) := by
  refine .object (Dictionary.ofList _).ordered fun entry member => ?_
  exact each _ (mem_presentFields.mp (Dictionary.mem_of_mem_ofList member)) _ rfl

end Json

end Reconciler
